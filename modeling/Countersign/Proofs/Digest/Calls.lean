import Countersign.Proofs.Digest
import Mathlib.Data.List.Induction

/-!
# Accounts over time

An account of a body (`Countersign.Digest.Tally`) is fed and asked for its digest, in any
order and as often as one likes. Whatever the order, it says what somebody would say who
wrote down the calls and looked at the list: every digest it gives is that of the bytes
fed before it was asked for the first time, and a portion is reported exactly if it is
not empty and comes later than that
(`Countersign.Digest.Tally.replies_eq_record`).

So there are two times in the life of an account, and
`Countersign.Digest.Tally.Recalls` says what its state is in each.

* **Before the digest is taken** it holds all that was fed.
* **From then on** it holds the digest of that, and nothing changes it any more.
-/

namespace Countersign.Digest.Tally

/-- A call on an account. -/
inductive Call where
  /-- Feed a portion of the body. -/
  | feed (data : Bytes)
  /-- Take the digest. -/
  | take
deriving DecidableEq

/-- What a call shows. -/
@[ext]
structure Reply where
  /-- The digest, if the call asks for it. -/
  digest : Option (Option Text)
  /-- What is reported. -/
  event : Option Event
  /-- Whether the digest is taken afterwards. -/
  isTaken : Bool
deriving DecidableEq

namespace Call

/-- The portion that is fed, empty if the call takes the digest. -/
def data : Call → Bytes
  | feed b => b
  | take => []

/-- The account after a call. -/
def after (t : Tally) : Call → Tally
  | feed b => t.feed b
  | take => t.take

/-- What a call on an account shows. -/
def reply (t : Tally) (call : Call) : Reply where
  digest := match call with
    | feed _ => none
    | take => some t.digest
  event := match call with
    | feed b => t.lateBytes? b
    | take => none
  isTaken := (call.after t).isTaken

end Call

/-- The account after some calls. -/
def afterAll (t : Tally) (calls : List Call) : Tally := calls.foldl Call.after t

/-- What some calls show, one after the other. -/
def replies : Tally → List Call → List Reply
  | _, [] => []
  | t, call :: rest => call.reply t :: replies (call.after t) rest

theorem afterAll_concat (t : Tally) (calls : List Call) (call : Call) :
    t.afterAll (calls ++ [call]) = call.after (t.afterAll calls) := by
  simp [afterAll]

theorem replies_append (t : Tally) (calls more : List Call) :
    t.replies (calls ++ more) = t.replies calls ++ (t.afterAll calls).replies more := by
  induction calls generalizing t with
  | nil => rfl
  | cons call calls ih =>
    rw [List.cons_append, replies, ih, replies]
    rfl

@[simp] theorem length_replies (t : Tally) (calls : List Call) :
    (t.replies calls).length = calls.length := by
  induction calls generalizing t with
  | nil => rfl
  | cons call calls ih => rw [replies, List.length_cons, ih, List.length_cons]

/-! ### The record of the calls -/

/-- What is fed before the digest is taken for the first time. -/
def inTime : List Call → Bytes
  | [] => []
  | .feed b :: rest => b ++ inTime rest
  | .take :: _ => []

theorem inTime_append (calls more : List Call) :
    inTime (calls ++ more) =
      if .take ∈ calls then inTime calls else inTime calls ++ inTime more := by
  induction calls with
  | nil => simp [inTime]
  | cons call calls ih =>
    cases call with
    | feed b =>
      rw [List.cons_append, inTime, inTime, ih]
      by_cases h : .take ∈ calls
      · simp [h]
      · simp [h]
    | take => simp [inTime]

/-- **Who takes the digest ends the time.** -/
theorem inTime_append_take (calls more : List Call) :
    inTime (calls ++ .take :: more) = inTime calls := by
  rw [inTime_append]
  split
  · rfl
  · rw [inTime, List.append_nil]

/-- The portions that are fed later than that, without the empty ones. -/
def late : List Call → List Bytes
  | [] => []
  | .feed _ :: rest => late rest
  | .take :: rest => (rest.map Call.data).filter (· ≠ [])

theorem late_concat (calls : List Call) (call : Call) :
    late (calls ++ [call]) =
      late calls ++ if .take ∈ calls ∧ call.data ≠ [] then [call.data] else [] := by
  induction calls with
  | nil => cases call <;> simp [late]
  | cons first calls ih =>
    cases first with
    | feed b =>
      rw [List.cons_append, late, late, ih]
      by_cases h : .take ∈ calls
      · simp [h]
      · simp [h]
    | take =>
      rw [List.cons_append, late, late, List.map_append, List.filter_append]
      by_cases h : call.data = []
      · simp [h]
      · simp [h]

/-- What the record of some calls, `before`, has an account say to the next one. -/
def record (before : List Call) (call : Call) : Reply where
  digest := if call = .take then some (ofBytes (inTime before)) else none
  event := if .take ∈ before ∧ call.data ≠ [] then some .lateBytes else none
  isTaken := decide (.take ∈ before ∨ call = .take)

/-! ### The account follows the record -/

/-- An account is as the calls have left it: it holds what was fed, or, once the digest was taken,
the digest of what was fed before. -/
def Recalls (calls : List Call) (t : Tally) : Prop :=
  if .take ∈ calls then t = taken (ofBytes (inTime calls)) else t.Holds (inTime calls)

/-- **Every call is recalled.** -/
theorem Recalls.after {calls : List Call} {t : Tally} (h : Recalls calls t) (call : Call) :
    Recalls (calls ++ [call]) (call.after t) := by
  by_cases htaken : .take ∈ calls
  · -- The time for changes is over.
    rw [Recalls, if_pos htaken] at h
    rw [Recalls, if_pos (List.mem_append_left _ htaken), inTime_append, if_pos htaken, h]
    cases call with
    | feed b => rfl
    | take => rfl
  · rw [Recalls, if_neg htaken] at h
    cases call with
    | feed b =>
      rw [Recalls, if_neg (by simp [htaken]), inTime_append, if_neg htaken]
      show (t.feed b).Holds (inTime calls ++ (b ++ []))
      rw [List.append_nil]
      exact holds_feed h b
    | take =>
      rw [Recalls, if_pos (by simp), inTime_append, if_neg htaken]
      show taken t.digest = _
      rw [digest_of_holds h, show inTime [.take] = [] from rfl, List.append_nil]

/-- **All calls are recalled**, by induction on the calls. -/
theorem recalls_afterAll (calls : List Call) : Recalls calls (untouched.afterAll calls) := by
  induction calls using List.reverseRecOn with
  | nil => exact holds_untouched
  | append_singleton calls call ih =>
    rw [afterAll_concat]
    exact ih.after call

namespace Recalls

variable {calls : List Call} {t : Tally}

theorem digest_eq (h : Recalls calls t) : t.digest = ofBytes (inTime calls) := by
  by_cases htaken : .take ∈ calls
  · rw [Recalls, if_pos htaken] at h
    rw [h, digest]
  · rw [Recalls, if_neg htaken] at h
    exact digest_of_holds h

theorem isTaken_eq (h : Recalls calls t) : t.isTaken = decide (.take ∈ calls) := by
  by_cases htaken : .take ∈ calls
  · rw [Recalls, if_pos htaken] at h
    rw [h, decide_eq_true htaken, isTaken]
  · rw [Recalls, if_neg htaken] at h
    rw [decide_eq_false htaken]
    cases t with
    | taken d => exact h.elim
    | _ => rfl

theorem lateBytes?_eq (h : Recalls calls t) (b : Bytes) :
    t.lateBytes? b = if .take ∈ calls ∧ b ≠ [] then some .lateBytes else none := by
  by_cases htaken : .take ∈ calls
  · rw [Recalls, if_pos htaken] at h
    rw [h, lateBytes?]
    by_cases hb : b = []
    · simp [hb]
    · simp [htaken, hb]
  · rw [Recalls, if_neg htaken] at h
    rw [if_neg fun hc => htaken hc.1]
    cases t with
    | taken d => exact h.elim
    | _ => rfl

/-- **The account says what the record says.** -/
theorem reply_eq (h : Recalls calls t) (call : Call) : call.reply t = record calls call := by
  have hafter : (call.after t).isTaken = decide (.take ∈ calls ∨ call = .take) := by
    rw [(h.after call).isTaken_eq]
    simp [eq_comm]
  cases call with
  | feed b => exact Reply.ext rfl (h.lateBytes?_eq b) hafter
  | take =>
    have hquiet : (record calls .take).event = none := by simp [record, Call.data]
    exact Reply.ext (congrArg some h.digest_eq) hquiet.symm hafter

/-- **Once the digest is taken, no call changes the account.** -/
theorem after_eq_self (h : Recalls calls t) (htaken : .take ∈ calls) (call : Call) :
    call.after t = t := by
  rw [Recalls, if_pos htaken] at h
  rw [h]
  cases call with
  | feed b => rfl
  | take => rfl

end Recalls

/-! ### Whole runs -/

theorem replies_concat (calls : List Call) (call : Call) :
    untouched.replies (calls ++ [call]) = untouched.replies calls ++ [record calls call] := by
  rw [replies_append, replies, replies, (recalls_afterAll calls).reply_eq]

/-- **All digests that an account gives are the same one.** -/
theorem filterMap_digest_replies (calls : List Call) :
    (untouched.replies calls).filterMap Reply.digest =
      List.replicate (calls.count .take) (ofBytes (inTime calls)) := by
  induction calls using List.reverseRecOn with
  | nil => rfl
  | append_singleton calls call ih =>
    rw [replies_concat, List.filterMap_append, ih, List.count_append]
    cases call with
    | feed b =>
      by_cases htaken : .take ∈ calls
      · simp [inTime_append, htaken, record]
      · -- There is no digest yet that could have changed.
        simp [List.count_eq_zero.mpr htaken, record]
    | take =>
      rw [inTime_append_take, List.count_singleton_self, List.replicate_succ']
      rfl

/-- **Reported are the late portions**, each of them once and nothing else. -/
theorem filterMap_event_replies (calls : List Call) :
    (untouched.replies calls).filterMap Reply.event = (late calls).map fun _ => .lateBytes := by
  induction calls using List.reverseRecOn with
  | nil => rfl
  | append_singleton calls call ih =>
    rw [replies_concat, List.filterMap_append, ih, late_concat, List.map_append]
    by_cases hlate : .take ∈ calls ∧ call.data ≠ []
    · simp [record, hlate]
    · simp [record, hlate]

/-- **An account says what its record says**, whatever calls are made on it and in whatever order:
all digests that it gives are that of the bytes fed before the first was asked for, absent exactly
if there were none; it is taken from then on; reported is each portion that comes later and is not
empty; and such a portion leaves the account as it is. -/
theorem replies_eq_record (before later : List Call) (call : Call) :
    let calls := before ++ call :: later
    (untouched.replies calls)[before.length]? = some
      { digest := if call = .take then some (ofBytes (inTime calls)) else none
        event := if .take ∈ before ∧ call.data ≠ [] then some .lateBytes else none
        isTaken := decide (.take ∈ before ∨ call = .take) } ∧
      (ofBytes (inTime calls) = none ↔ inTime calls = []) ∧
      (.take ∈ before →
        untouched.afterAll (before ++ [call]) = untouched.afterAll before) := by
  intro calls
  have hrecalls := recalls_afterAll before
  refine ⟨?_, ?_, fun htaken => ?_⟩
  · have hreply : (untouched.replies calls)[before.length]? = some (record before call) := by
      rw [replies_append, List.getElem?_append_right (by simp), length_replies, Nat.sub_self,
        replies, List.getElem?_cons_zero, hrecalls.reply_eq]
    rw [hreply, record]
    by_cases hcall : call = .take
    · -- What comes later is not in time for this call.
      have hsame : inTime calls = inTime before := by
        rw [inTime_append, hcall]
        split
        · rfl
        · rw [inTime, List.append_nil]
      rw [if_pos hcall, if_pos hcall, hsame]
    · rw [if_neg hcall, if_neg hcall]
  · simp [ofBytes]
  · rw [afterAll_concat]
    exact hrecalls.after_eq_self htaken call

/-- An empty portion has no digest, and is not reported. -/
example : (untouched.replies [.feed [], .take, .feed [], .feed [1], .take]).map
    (fun r => (r.digest, r.event)) =
      [(none, none), (some none, none), (none, none), (none, some .lateBytes),
        (some none, none)] := by decide

end Countersign.Digest.Tally
