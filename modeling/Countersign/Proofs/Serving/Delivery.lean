import Countersign.Proofs.Digest.Calls
import Countersign.Proofs.Http.Body
import Countersign.Serving.Intake

/-!
# Digesting on the way

A body is digested while it is handed on. Whoever asks the intake for its pieces, at once
or with patience, sees what the body itself would show, frame by frame, whether it is
digested or not and whenever somebody takes the digest
(`Countersign.Serving.Intake.moments_course`). So what is handed on depends on the body
alone, and what is digested depends on what is handed on
(`Countersign.Serving.Intake.digesting_is_transparent`).

The second half is a translation. What happens to a body
(`Countersign.Serving.Moment`) is a call on its account, or none
(`Countersign.Serving.Moment.call?`), and for calls an account answers as its record
says (`Countersign.Digest.Tally.replies_concat`).

| at this moment | a body that is digested | a body that is not |
|---|---|---|
| data is handed on, be it empty | feeds its account | does nothing |
| trailers or a failure are handed on | does nothing | does nothing |
| nothing is ready, or nothing is left | does nothing | does nothing |
-/

namespace Countersign.Serving

open Http Digest

/-! ### Moments -/

/-- What is done while a body is read. -/
inductive Act where
  /-- Ask for a piece. -/
  | poll
  /-- Wait for a piece. -/
  | wait
  /-- Take the digest. -/
  | take
deriving DecidableEq

/-- A moment of reading: what could be seen of the body, and what it answered. -/
structure Moment where
  atEnd : Bool
  /-- The exact number of data bytes that were left. -/
  size : Nat
  /-- What the body answered, or `none` if it was not asked, because the digest was taken. -/
  answer : Option Poll
deriving DecidableEq

/-- What a body answers, and what is left of it. Taking the digest is no concern of the body. -/
def Act.onBody : Act → Body → Option Poll × Body
  | poll, b => (some b.poll.1, b.poll.2)
  | wait, b => (some (.ready b.next.1), b.next.2)
  | take, b => (none, b)

/-- The moments of a body that is left to itself. -/
def moments : List Act → Body → List Moment
  | [], _ => []
  | act :: acts, b => ⟨b.atEnd, b.size, (act.onBody b).1⟩ :: moments acts (act.onBody b).2

namespace Moment

/-- The body was asked, the digest was not taken. -/
def isReading (m : Moment) : Bool := m.answer.isSome

/-- The data that was handed on. -/
def bytes (m : Moment) : Bytes :=
  match m.answer with
  | some (.ready (some p)) => p.bytes
  | _ => []

/-- The call that the moment makes on an account, where the body is digested and where it is not. -/
def call? (isDigesting : Bool) (m : Moment) : Option Tally.Call :=
  match m.answer with
  | none => some .take
  | some (.ready (some (.data b))) => if isDigesting then some (.feed b) else none
  | _ => none

end Moment

/-- **Nothing is lost and nothing is added**: the data that is handed on and the data that is left
are the data of the body. -/
theorem bytes_onBody (act : Act) (b : Body) (atEnd : Bool) (size : Nat) :
    Moment.bytes ⟨atEnd, size, (act.onBody b).1⟩ ++ (act.onBody b).2.bytes = b.bytes := by
  cases act with
  | take => rfl
  | poll =>
    cases b with
    | nil => rfl
    | cons frame r => cases frame <;> rfl
  | wait =>
    induction b with
    | nil => rfl
    | cons frame r ih =>
      cases frame with
      | pending => exact ih
      | piece p => rfl

theorem isReading_onBody {act : Act} (h : act ≠ .take) (b : Body) (atEnd : Bool) (size : Nat) :
    Moment.isReading ⟨atEnd, size, (act.onBody b).1⟩ = true := by
  cases act with
  | take => exact absurd rfl h
  | poll => rfl
  | wait => rfl

/-! ### Moments as calls -/

/-- **The three kinds of moment** of a body that is digested: data is handed on, which is fed; or
nothing, or what is not data; or the digest is taken. -/
theorem Moment.call?_cases (m : Moment) :
    (m.isReading = true ∧ m.call? true = some (.feed m.bytes)) ∨
      (m.isReading = true ∧ m.call? true = none ∧ m.bytes = []) ∨
        (m.isReading = false ∧ m.call? true = some .take ∧ m.bytes = []) := by
  rw [isReading, call?, bytes]
  rcases m.answer with _ | (_ | _ | (b | fields | failure))
  · exact Or.inr (Or.inr ⟨rfl, rfl, rfl⟩)
  · exact Or.inr (Or.inl ⟨rfl, rfl, rfl⟩)
  · exact Or.inr (Or.inl ⟨rfl, rfl, rfl⟩)
  · exact Or.inl ⟨rfl, rfl⟩
  · exact Or.inr (Or.inl ⟨rfl, rfl, rfl⟩)
  · exact Or.inr (Or.inl ⟨rfl, rfl, rfl⟩)

/-- A body that is not digested feeds nothing. -/
theorem Moment.call?_false (m : Moment) :
    m.call? false = if m.isReading then none else some .take := by
  rw [isReading, call?]
  rcases m.answer with _ | (_ | _ | (b | fields | failure)) <;> rfl

/-- Where the body is asked, the digest is not. -/
theorem Moment.call?_of_isReading {m : Moment} (h : m.isReading = true) (isDigesting : Bool) :
    m.call? isDigesting = none ∨ ∃ data, m.call? isDigesting = some (.feed data) := by
  cases isDigesting with
  | false => exact Or.inl (by rw [call?_false, if_pos h])
  | true =>
    rcases m.call?_cases with ⟨-, hcall⟩ | ⟨-, hcall, -⟩ | ⟨hnot, -⟩
    · exact Or.inr ⟨_, hcall⟩
    · exact Or.inl hcall
    · exact absurd (h.symm.trans hnot) (by decide)

/-- The calls that some moments make. -/
def calls (isDigesting : Bool) (ms : List Moment) : List Tally.Call :=
  ms.filterMap (Moment.call? isDigesting)

/-- **In time** is what is handed on before the digest is taken. -/
theorem inTime_calls (ms : List Moment) :
    Tally.inTime (calls true ms) = (ms.takeWhile Moment.isReading).flatMap Moment.bytes := by
  induction ms with
  | nil => rfl
  | cons m ms ih =>
    rw [calls] at ih ⊢
    rcases m.call?_cases with ⟨h, hcall⟩ | ⟨h, hcall, hbytes⟩ | ⟨h, hcall, -⟩
    · rw [List.filterMap_cons_some hcall, Tally.inTime, List.takeWhile_cons_of_pos h, ih,
        List.flatMap_cons]
    · rw [List.filterMap_cons_none hcall, List.takeWhile_cons_of_pos h, ih, List.flatMap_cons,
        hbytes, List.nil_append]
    · rw [List.filterMap_cons_some hcall, Tally.inTime, List.takeWhile_cons_of_neg (by simp [h])]
      rfl

/-- What some moments feed, without the empty portions. -/
theorem filter_data_calls (ms : List Moment) :
    ((calls true ms).map Tally.Call.data).filter (· ≠ []) =
      (ms.filter (·.bytes ≠ [])).map Moment.bytes := by
  induction ms with
  | nil => rfl
  | cons m ms ih =>
    rw [calls] at ih ⊢
    rcases m.call?_cases with ⟨-, hcall⟩ | ⟨-, hcall, hbytes⟩ | ⟨-, hcall, hbytes⟩
    · rw [List.filterMap_cons_some hcall, List.map_cons, List.filter_cons, List.filter_cons, ih]
      by_cases hbytes : m.bytes = []
      · simp [Tally.Call.data, hbytes]
      · simp [Tally.Call.data, hbytes]
    · rw [List.filterMap_cons_none hcall, ih, List.filter_cons_of_neg (by simp [hbytes])]
    · rw [List.filterMap_cons_some hcall, List.map_cons, List.filter_cons_of_neg (by decide), ih,
        List.filter_cons_of_neg (by simp [hbytes])]

/-- **Late** is the data that is handed on after the digest is taken. -/
theorem late_calls (ms : List Moment) :
    Tally.late (calls true ms) =
      ((ms.dropWhile Moment.isReading).filter (·.bytes ≠ [])).map Moment.bytes := by
  induction ms with
  | nil => rfl
  | cons m ms ih =>
    have hsplit := filter_data_calls ms
    rw [calls] at ih hsplit ⊢
    rcases m.call?_cases with ⟨h, hcall⟩ | ⟨h, hcall, -⟩ | ⟨h, hcall, hbytes⟩
    · rw [List.filterMap_cons_some hcall, Tally.late, ih, List.dropWhile_cons_of_pos h]
    · rw [List.filterMap_cons_none hcall, ih, List.dropWhile_cons_of_pos h]
    · rw [List.filterMap_cons_some hcall, Tally.late, hsplit,
        List.dropWhile_cons_of_neg (by simp [h]), List.filter_cons_of_neg (by simp [hbytes])]

/-! ### The course of reading -/

/-- The desk after a call on an account. -/
def Desk.callOn (n : Nat) (d : Desk) : Tally.Call → Desk
  | .feed b => d.feed n b
  | .take => d.setAccount n (d.accounts n).take

namespace Desk

theorem accounts_callOn (n : Nat) (d : Desk) (call : Tally.Call) :
    (d.callOn n call).accounts n = call.after (d.accounts n) := by
  cases call with
  | feed b => exact if_pos rfl
  | take => exact if_pos rfl

theorem log_callOn (n : Nat) (d : Desk) (call : Tally.Call) :
    (d.callOn n call).log = d.log ++ (call.reply (d.accounts n)).event.toList := by
  cases call with
  | feed b => rfl
  | take => exact (List.append_nil _).symm

/-- Who takes a digest again leaves everything as it is. -/
theorem callOn_take_take (n : Nat) (d : Desk) :
    (d.callOn n .take).callOn n .take = d.callOn n .take := by
  have haccounts : ((d.callOn n .take).callOn n .take).accounts = (d.callOn n .take).accounts := by
    funext m
    by_cases hm : m = n
    · subst hm
      rw [accounts_callOn, accounts_callOn]
      rfl
    · simp [callOn, setAccount, hm]
  exact congrArg (fun accounts => { d.callOn n .take with accounts := accounts }) haccounts

/-- Taking a digest several times is taking it once. -/
theorem foldl_callOn_replicate_take (n k : Nat) (d : Desk) :
    (List.replicate (k + 1) Tally.Call.take).foldl (callOn n) d = d.callOn n .take := by
  induction k with
  | zero => rfl
  | succ k ih => rw [List.replicate_succ', List.foldl_concat, ih, callOn_take_take]

@[simp] theorem accounts_setAccount (n : Nat) (d : Desk) (t : Tally) :
    (d.setAccount n t).accounts n = t := if_pos rfl

/-- **Calls on an account** are calls on its state, and the desk logs what is reported. -/
theorem foldl_callOn (n : Nat) (cs : List Tally.Call) (d : Desk) :
    (cs.foldl (callOn n) d).accounts n = (d.accounts n).afterAll cs ∧
      (cs.foldl (callOn n) d).log =
        d.log ++ ((d.accounts n).replies cs).filterMap Tally.Reply.event := by
  induction cs generalizing d with
  | nil => exact ⟨rfl, (List.append_nil _).symm⟩
  | cons call cs ih =>
    obtain ⟨haccount, hlog⟩ := ih (d.callOn n call)
    rw [accounts_callOn] at haccount hlog
    refine ⟨haccount, ?_⟩
    rw [List.foldl_cons, hlog, log_callOn, Tally.replies, List.append_assoc]
    cases hevent : (call.reply (d.accounts n)).event <;> simp [hevent]

end Desk

/-- What comes of reading a body. -/
structure Course where
  moments : List Moment
  /-- The digests that were given out. -/
  digests : List (Option Text)
  intake : Intake
  desk : Desk

namespace Intake

/-- What an intake answers. The digest is that of account `n`, whether the body is digested into it
or not. -/
def perform (n : Nat) : Act → Intake → Desk → Option Poll × Intake × Desk
  | .poll, i, d => (some (i.poll d).1, (i.poll d).2)
  | .wait, i, d => (some (.ready (i.next d).1), (i.next d).2)
  | .take, i, d => (none, i, d.callOn n .take)

/-- The course of reading a body from an intake. -/
def course (n : Nat) : List Act → Intake → Desk → Course
  | [], i, d => ⟨[], [], i, d⟩
  | act :: acts, i, d =>
    let (answer, after) := perform n act i d
    let rest := course n acts after.1 after.2
    { rest with
      moments := ⟨i.atEnd, i.size, answer⟩ :: rest.moments
      digests := if act = .take then (d.accounts n).digest :: rest.digests else rest.digests }

/-- The intake of a body that is digested into account `n`, or not digested. -/
def into (n : Nat) (isDigesting : Bool) (b : Body) : Intake :=
  ⟨b, if isDigesting then some n else none⟩

/-- A piece that is handed on is a call, or none. -/
theorem record_eq (n : Nat) (isDigesting : Bool) (p : Piece) (d : Desk) (atEnd : Bool)
    (size : Nat) :
    record (if isDigesting then some n else none) p d =
      (Moment.call? isDigesting ⟨atEnd, size, some (.ready (some p))⟩).elim d (d.callOn n) := by
  cases isDigesting <;> cases p <;> rfl

/-- **An intake answers what its body answers**, and makes the call that goes with the answer. -/
theorem perform_into (n : Nat) (isDigesting : Bool) (act : Act) (b : Body) (d : Desk) (atEnd : Bool)
    (size : Nat) :
    perform n act (into n isDigesting b) d =
      ((act.onBody b).1, into n isDigesting (act.onBody b).2,
        (Moment.call? isDigesting ⟨atEnd, size, (act.onBody b).1⟩).elim d (d.callOn n)) := by
  cases act with
  | take => rfl
  | poll =>
    cases b with
    | nil => rfl
    | cons frame r =>
      cases frame with
      | pending => rfl
      | piece p => exact congrArg (_, _, ·) (record_eq n isDigesting p d atEnd size)
  | wait =>
    simp only [perform, next, into, Act.onBody]
    obtain ⟨_ | p, rest⟩ := b.next
    · rfl
    · exact congrArg (_, _, ·) (record_eq n isDigesting p d atEnd size)

/-! ### What is handed on, and what is digested -/

section Course

variable (n : Nat) (isDigesting : Bool) (acts : List Act) (b : Body) (d : Desk)

/-- **What is handed on is the body**, whether it is digested or not, and whenever the digest is
taken. -/
theorem moments_course :
    (course n acts (into n isDigesting b) d).moments = moments acts b := by
  induction acts generalizing b d with
  | nil => rfl
  | cons act acts ih =>
    rw [course, perform_into n isDigesting act b d b.atEnd b.size]
    simp only [ih, moments]
    rfl

/-- **The desk sees the calls** that the moments make, and no other. -/
theorem desk_course :
    (course n acts (into n isDigesting b) d).desk =
      (calls isDigesting (moments acts b)).foldl (Desk.callOn n) d := by
  induction acts generalizing b d with
  | nil => rfl
  | cons act acts ih =>
    rw [course, perform_into n isDigesting act b d b.atEnd b.size]
    simp only [ih, moments, calls, List.filterMap_cons]
    cases Moment.call? isDigesting ⟨b.atEnd, b.size, (act.onBody b).1⟩ with
    | none => rfl
    | some call => rfl

/-- What is given out is what the account says. -/
theorem digests_course :
    (course n acts (into n isDigesting b) d).digests =
      ((d.accounts n).replies (calls isDigesting (moments acts b))).filterMap
        Tally.Reply.digest := by
  induction acts generalizing b d with
  | nil => rfl
  | cons act acts ih =>
    rw [course, perform_into n isDigesting act b d b.atEnd b.size]
    simp only [ih, moments, calls, List.filterMap_cons]
    by_cases htake : act = .take
    · subst htake
      rw [if_pos rfl]
      simp only [Act.onBody, Moment.call?, Option.elim_some, Tally.replies, Desk.accounts_callOn]
      rfl
    · -- Other acts feed the account, or leave it alone.
      rw [if_neg htake]
      rcases Moment.call?_of_isReading (isReading_onBody htake b b.atEnd b.size) isDigesting with
        hcall | ⟨data, hcall⟩
      · rw [hcall]
        rfl
      · rw [hcall]
        simp only [Option.elim_some, Tally.replies, Desk.accounts_callOn]
        rfl

/-- What has been handed on, and what is left. -/
theorem bytes_course :
    (moments acts b).flatMap Moment.bytes ++
      (course n acts (into n isDigesting b) d).intake.body.bytes = b.bytes := by
  induction acts generalizing b d with
  | nil => rfl
  | cons act acts ih =>
    rw [course, perform_into n isDigesting act b d b.atEnd b.size, moments, List.flatMap_cons,
      List.append_assoc]
    simp only [ih]
    exact bytes_onBody act b b.atEnd b.size

/-- The account is asked as often as the digest is taken. -/
theorem count_take_calls :
    (calls isDigesting (moments acts b)).count .take = acts.count .take := by
  induction acts generalizing b with
  | nil => rfl
  | cons act acts ih =>
    simp only [calls] at ih ⊢
    rw [moments, List.filterMap_cons]
    by_cases htake : act = .take
    · simp [htake, Act.onBody, Moment.call?, ih]
    · rcases Moment.call?_of_isReading (isReading_onBody htake b b.atEnd b.size) isDigesting with
        hcall | ⟨data, hcall⟩
      · simp [hcall, htake, ih]
      · simp [hcall, htake, ih]

/-- A body that is not digested makes no calls of its own. -/
theorem calls_false :
    calls false (moments acts b) = List.replicate (acts.count .take) .take := by
  induction acts generalizing b with
  | nil => rfl
  | cons act acts ih =>
    simp only [calls] at ih ⊢
    rw [moments, List.filterMap_cons, Moment.call?_false, ih]
    by_cases htake : act = .take
    · simp [htake, Moment.isReading, Act.onBody, List.replicate_succ]
    · rw [isReading_onBody htake]
      simp [htake]

end Course

/-- **A body is handed on as it is, and digested as far as it was read in time.** Whatever is done
with a body, and whenever its digest is taken, be it digested or not: what is seen of it is what it
shows by itself. Every digest that is given out is that of the data handed on before the first one
was taken; data that is handed on later is reported, once for each frame that holds some, and
nothing else is. And a body that is not digested leaves the desk to those who take digests. -/
theorem digesting_is_transparent (body : Body) (n : Nat) (d : Desk) (acts : List Act) :
    let seen := moments acts body
    let plain := course n acts ⟨body, none⟩ d
    let digested := course n acts ⟨body, some n⟩ (d.setAccount n .untouched)
    plain.moments = seen ∧ digested.moments = seen ∧
      plain.desk = (if .take ∈ acts then d.callOn n .take else d) ∧
      digested.digests = List.replicate (acts.count .take)
        (ofBytes ((seen.takeWhile Moment.isReading).flatMap Moment.bytes)) ∧
      digested.desk.log = d.log ++
        ((seen.dropWhile Moment.isReading).filter (·.bytes ≠ [])).map (fun _ => .lateBytes) ∧
      seen.flatMap Moment.bytes ++ digested.intake.body.bytes = body.bytes := by
  intro seen plain digested
  refine ⟨moments_course n false acts body d, moments_course n true acts body _, ?_, ?_, ?_,
    bytes_course n true acts body _⟩
  · show (course n acts (into n false body) d).desk = _
    rw [desk_course, calls_false]
    by_cases htake : .take ∈ acts
    · obtain ⟨k, hk⟩ := Nat.exists_eq_add_one.mpr (List.count_pos_iff.mpr htake)
      rw [hk, if_pos htake, Desk.foldl_callOn_replicate_take]
    · rw [List.count_eq_zero.mpr htake, if_neg htake]
      rfl
  · show (course n acts (into n true body) _).digests = _
    rw [digests_course, Desk.accounts_setAccount, Tally.filterMap_digest_replies, count_take_calls,
      inTime_calls]
  · show (course n acts (into n true body) _).desk.log = _
    rw [desk_course, (Desk.foldl_callOn n _ _).2, Desk.accounts_setAccount,
      Tally.filterMap_event_replies, late_calls, List.map_map]
    rfl

/-- A failure in the middle, and data behind it: what is read before the digest is taken, and what
comes too late. -/
example :
    let seen := moments [.poll, .poll, .wait, .poll, .take, .poll, .wait, .poll]
      [.piece (.data [1]), .pending, .piece (.failure []), .piece (.data [2]),
        .piece (.data []), .piece (.data [3])]
    Tally.inTime (calls true seen) = [1, 2] ∧ Tally.late (calls true seen) = [[3]] ∧
      calls false seen = [.take] := by decide

end Intake

end Countersign.Serving
