import Countersign.Proofs.Serving.Delivery
import Countersign.Proofs.Serving.Demands
import Countersign.Proofs.Serving.Reading
import Countersign.Proofs.Serving.Traces

/-!
# Presenting a request again and again

An application may ask what the request in hand presents (`Countersign.Serving.Desk.presented`)
at any time, also while the body is still arriving, and as often as it likes. It is told the same
each time, although asking is not without effect: the first question that gets as far as the digest
takes it, and what arrives later is not part of it.

| in turn | on the account of the body | on the count of the context |
|---|---|---|
| a portion arrives | feeds it | – |
| the digest is asked for | takes the digest | – |
| the request is presented, and has credentials | takes the digest | one more |
| the request is presented, and has none | – | one more |

So every turn makes a call on the account or none (`Countersign.Serving.Turn.call?`), and
`Countersign.Serving.Desk.InHand` says what the calls leave. That the answers agree has two
reasons: with credentials, the digest was taken by the first answer at the latest, and stays;
without them, the answer does not depend on the digest
(`Countersign.Serving.Presented.of_inTime`).
-/

namespace Countersign.Serving

open Http Digest

/-! ### Turns -/

/-- What happens while a request is in hand. -/
inductive Turn where
  /-- A portion of its body arrives. -/
  | feed (data : Bytes)
  /-- Its digest is asked for. -/
  | digest
  /-- It is asked what the request presents. -/
  | present
deriving DecidableEq

/-- The call that a turn makes on the account of the body. To present a request takes the digest if
there are credentials that can be read. -/
def Turn.call? (head : Head) : Turn → Option Tally.Call
  | feed data => some (.feed data)
  | digest => some .take
  | present =>
    match Credentials.ofRequest head.fields with
    | .ok _ => some .take
    | .error _ => none

theorem Turn.call?_present_of_not_presents {head : Head}
    (h : ¬∃ c, Presents head.fields c) : present.call? head = none := by
  rw [call?]
  split
  next c hc => exact absurd ⟨c, presents_iff.mpr hc⟩ h
  next => rfl

theorem Turn.filterMap_call?_cons (head : Head) (turn : Turn) (later : List Turn) :
    (turn :: later).filterMap (call? head) =
      (turn.call? head).toList ++ later.filterMap (call? head) := by
  rw [List.filterMap_cons]
  cases turn.call? head <;> rfl

/-- What a request presents whose body has the given digest. -/
def Presented.of (head : Head) (digest : Option Text) : Except Fault Presented := do
  let a ← Credentials.ofRequest head.fields
  let r ← Canonical.Request.received head a.signedNames digest
  return ⟨a, r⟩

/-- What is presented are the credentials in the fields, and the digest that was given. -/
theorem Presented.of_eq_ok {head : Head} {digest : Option Text} {i : Presented}
    (h : Presented.of head digest = .ok i) :
    Presents head.fields i.credentials ∧ i.request.digest = digest := by
  obtain ⟨a, ha, h⟩ := bind_eq_ok_iff.mp h
  obtain ⟨r, hr, h⟩ := bind_eq_ok_iff.mp h
  obtain rfl := Except.ok.inj h
  obtain ⟨-, rfl⟩ := Canonical.Request.received_eq_ok_iff.mp hr
  exact ⟨presents_iff.mpr ha, rfl⟩

/-- Without credentials the fault is theirs, whatever the digest. -/
theorem Presented.of_eq_error {head : Head} {f : Fault}
    (h : Credentials.ofRequest head.fields = .error f) (digest : Option Text) :
    Presented.of head digest = .error f := by
  rw [Presented.of, h]
  rfl

/-- **What is presented in a turn is what is presented later**: either the digest is taken by then,
or it does not matter. -/
theorem Presented.of_inTime (head : Head) (before later : List Tally.Call) :
    Presented.of head
        (ofBytes (Tally.inTime (before ++ (Turn.present.call? head).toList ++ later))) =
      Presented.of head (ofBytes (Tally.inTime before)) := by
  rw [Turn.call?]
  split
  next c hc =>
    rw [Option.toList_some, List.append_assoc, List.singleton_append, Tally.inTime_append_take]
  next f hf => rw [Presented.of_eq_error hf, Presented.of_eq_error hf]

namespace Desk

/-- The desk after a turn. -/
def afterTurn (c : Context) (n : Nat) (d : Desk) : Turn → Desk
  | .feed data => d.feed n data
  | .digest => (d.takeDigest c).2
  | .present => d.presented.2

/-- The desk after some turns. -/
def afterTurns (c : Context) (n : Nat) (d : Desk) (turns : List Turn) : Desk :=
  turns.foldl (afterTurn c n) d

/-! ### One turn -/

/-- A request is in hand: its context is in the slot, and the account of its body is as some calls
have left it. -/
structure InHand (c : Context) (n : Nat) (calls : List Tally.Call) (d : Desk) : Prop where
  slot : d.slot = .holding c
  account : c.account = some n
  recalls : Tally.Recalls calls (d.accounts n)

namespace InHand

variable {c : Context} {n : Nat} {calls : List Tally.Call} {d : Desk}

theorem get (h : InHand c n calls d) : InHand c n calls d.get.2 where
  slot := d.slot_get.trans h.slot
  account := h.account
  recalls := d.accounts_get.symm ▸ h.recalls

theorem callOn (h : InHand c n calls d) (call : Tally.Call) :
    InHand c n (calls ++ [call]) (d.callOn n call) where
  slot := by cases call <;> exact h.slot
  account := h.account
  recalls := d.accounts_callOn n call ▸ h.recalls.after call

theorem presented_fst (h : InHand c n calls d) :
    d.presented.1 = Presented.of c.head (ofBytes (Tally.inTime calls)) :=
  presented_of_digest h.slot fun _ => ⟨n, h.account, h.recalls.digest_eq⟩

/-- **To present a request** is to give its context out and then to make the call on the account, if
there is one to make. -/
theorem presented_snd (h : InHand c n calls d) :
    d.presented.2 = ((Turn.present.call? c.head).toList).foldl (Desk.callOn n) d.get.2 := by
  obtain ⟨e, hget⟩ : ∃ e, d.get = (.ok c, e) := by
    rw [Desk.get, h.slot]
    exact ⟨_, rfl⟩
  rw [presented, hget, Turn.call?]
  simp only
  rcases Credentials.ofRequest c.head.fields with f | a
  · rfl
  simp only [takeDigest, h.account]
  rcases Canonical.Request.received c.head a.signedNames (e.accounts n).digest with f | r
  · rfl
  · rfl

theorem takeDigest_eq (h : InHand c n calls d) :
    d.takeDigest c = (.ok (ofBytes (Tally.inTime calls)), d.callOn n .take) := by
  rw [takeDigest, h.account]
  exact congrArg (fun digest => (Except.ok digest, d.callOn n .take)) h.recalls.digest_eq

/-- **Every turn is a call on the account or none.** The context is given out when the request is
presented. -/
theorem afterTurn_eq (h : InHand c n calls d) (turn : Turn) :
    d.afterTurn c n turn =
      (turn.call? c.head).toList.foldl (Desk.callOn n)
        (if turn = .present then d.get.2 else d) := by
  cases turn with
  | feed data => rfl
  | digest => exact congrArg Prod.snd h.takeDigest_eq
  | present => exact h.presented_snd

/-- **A turn leaves the request in hand**, with one more call or none. -/
theorem afterTurn (h : InHand c n calls d) (turn : Turn) :
    InHand c n (calls ++ (turn.call? c.head).toList) (d.afterTurn c n turn) := by
  have hstart : InHand c n calls (if turn = .present then d.get.2 else d) := by
    split
    · exact h.get
    · exact h
  rw [h.afterTurn_eq]
  cases turn.call? c.head with
  | none => exact (List.append_nil calls).symm ▸ hstart
  | some call => exact hstart.callOn call

/-- Only presenting counts. -/
theorem accesses_afterTurn (h : InHand c n calls d) (turn : Turn) (m : Nat) :
    (d.afterTurn c n turn).accesses m =
      d.accesses m + if m = c.number then [turn].count .present else 0 := by
  have hcall : ∀ (call? : Option Tally.Call) (e : Desk),
      (call?.toList.foldl (Desk.callOn n) e).accesses = e.accesses := by
    rintro (_ | _ | _) e <;> rfl
  rw [h.afterTurn_eq, hcall]
  by_cases hturn : turn = .present
  · rw [if_pos hturn, hturn, Desk.get, h.slot]
    by_cases hm : m = c.number
    · simp [hm]
    · simp [hm]
  · simp [hturn]

end InHand

/-! ### Many turns -/

section Turns

variable {c : Context} {n : Nat} {calls : List Tally.Call} {d : Desk}

theorem afterTurns_concat (turns : List Turn) (turn : Turn) :
    d.afterTurns c n (turns ++ [turn]) = (d.afterTurns c n turns).afterTurn c n turn := by
  rw [afterTurns, List.foldl_concat, afterTurns]

/-- **The request stays in hand**, by induction on the turns. -/
theorem InHand.afterTurns (h : InHand c n calls d) (turns : List Turn) :
    InHand c n (calls ++ turns.filterMap (Turn.call? c.head)) (d.afterTurns c n turns) := by
  induction turns using List.reverseRecOn with
  | nil => exact (List.append_nil calls).symm ▸ h
  | append_singleton turns turn ih =>
    rw [afterTurns_concat, List.filterMap_append, Turn.filterMap_call?_cons, List.filterMap_nil,
      List.append_nil, ← List.append_assoc]
    exact ih.afterTurn turn

/-- **The count says how often the request was presented.** -/
theorem InHand.accesses_afterTurns (h : InHand c n calls d) (turns : List Turn) (m : Nat) :
    (d.afterTurns c n turns).accesses m =
      d.accesses m + if m = c.number then turns.count .present else 0 := by
  induction turns using List.reverseRecOn with
  | nil => simp [Desk.afterTurns]
  | append_singleton turns turn ih =>
    rw [afterTurns_concat, (h.afterTurns turns).accesses_afterTurn, ih, List.count_append]
    split
    · omega
    · rfl

end Turns

/-- **Presenting is stable** while a request is in hand, in whatever order portions of its body
arrive, its digest is asked for and it is presented, and whatever calls its account has seen before.

* Every time it is presented, the answer is the same: the same credentials and the same canonical
  form, or the same fault.
* The digest in it, and the one that is given to everybody who asks for it, is that of the bytes fed
  before the first time that somebody asked for it or presented credentials that can be read.
* If there are none – the field is absent, repeated, not visible ASCII, or holds no credentials –
  presenting leaves the accounts alone.
* The context counts how often it was presented, and no other context does. -/
theorem presenting_is_stable {d : Desk} {c : Context} {n : Nat} {history : List Tally.Call}
    (hslot : d.slot = .holding c) (haccount : c.account = some n)
    (hhistory : d.accounts n = Tally.untouched.afterAll history) (turns : List Turn) :
    let digest := ofBytes (Tally.inTime (history ++ turns.filterMap (Turn.call? c.head)))
    let answer := Presented.of c.head digest
    (∀ before later, turns = before ++ .present :: later →
        (d.afterTurns c n before).presented.1 = answer) ∧
      (∀ i, answer = .ok i → Presents c.head.fields i.credentials ∧ i.request.digest = digest) ∧
      (∀ before later, turns = before ++ .digest :: later →
        ((d.afterTurns c n before).takeDigest c).1 = .ok digest) ∧
      ((¬∃ a, Presents c.head.fields a) → ∀ before later, turns = before ++ .present :: later →
        (d.afterTurns c n (before ++ [.present])).accounts = (d.afterTurns c n before).accounts) ∧
      ∀ m, (d.afterTurns c n turns).accesses m =
        d.accesses m + if m = c.number then turns.count .present else 0 := by
  intro digest answer
  have hstart : InHand c n history d :=
    ⟨hslot, haccount, hhistory ▸ Tally.recalls_afterAll history⟩
  -- The calls up to a turn, its own, and the rest.
  have hcalls : ∀ before later turn,
      history ++ (before ++ turn :: later).filterMap (Turn.call? c.head) =
        history ++ before.filterMap (Turn.call? c.head) ++ (turn.call? c.head).toList ++
          later.filterMap (Turn.call? c.head) := by
    intro before later turn
    rw [List.filterMap_append, Turn.filterMap_call?_cons, List.append_assoc, List.append_assoc]
  refine ⟨?_, fun i => Presented.of_eq_ok, ?_, fun hnone => ?_, hstart.accesses_afterTurns turns⟩
  · rintro before later rfl
    simp only [answer, digest]
    rw [hcalls, Presented.of_inTime, (hstart.afterTurns before).presented_fst]
  · rintro before later rfl
    simp only [digest]
    rw [hcalls, Turn.call?, Option.toList_some, List.append_assoc, List.singleton_append,
      Tally.inTime_append_take, (hstart.afterTurns before).takeDigest_eq]
  · rintro before later rfl
    have hcall := Turn.call?_present_of_not_presents hnone
    rw [afterTurns_concat, (hstart.afterTurns before).afterTurn_eq, hcall]
    exact accounts_get _

/-- A request that is presented while its body is arriving, and again after that: the second
portion came too late. -/
theorem presenting_is_stable_while_arriving :
    let head : Head := ⟨⟨"POST".toList, by decide⟩, ⟨[], "/a".toList, none, by decide, by decide⟩,
      [(Carrier.authorization.fieldName,
        ⟨Utf8.encode "x partner-id=bob".toList, List.all_eq_true.mp (by decide)⟩)]⟩
    let c : Context := ⟨0, head, some 0⟩
    let d : Desk := { start with slot := .holding c }
    ∃ i, (d.afterTurns c 0 [.feed [1]]).presented.1 = .ok i ∧
      (d.afterTurns c 0 [.feed [1], .present, .feed [2], .digest]).presented.1 = .ok i ∧
      i.request.digest = ofBytes [1] ∧
      (d.afterTurns c 0 [.feed [1], .present, .feed [2], .digest, .present]).accesses 0 = 2 := by
  intro head c d
  have hread : Credentials.ofRequest head.fields =
      .ok ⟨some "x".toList, some "bob".toList, none, [], none, none, none⟩ := by decide +kernel
  have hcalls : [Turn.feed [1], .present, .feed [2], .digest, .present].filterMap
      (Turn.call? head) = [.feed [1], .take, .feed [2], .take, .take] := by
    simp [Turn.call?, hread]
  obtain ⟨hsame, hdigest, -, -, hcount⟩ := @presenting_is_stable d c 0 [] rfl rfl rfl
    [.feed [1], .present, .feed [2], .digest, .present]
  rw [hcalls] at hsame hdigest
  obtain ⟨i, hi⟩ : ∃ i, Presented.of head (ofBytes [1]) = .ok i := by
    rw [Presented.of, hread, ok_bind, Canonical.Request.received_eq_ok_iff.mpr
      ⟨fun n hn => absurd hn List.not_mem_nil, rfl⟩]
    exact ⟨_, rfl⟩
  exact ⟨i, (hsame [.feed [1]] _ rfl).trans hi,
    (hsame [.feed [1], .present, .feed [2], .digest] [] rfl).trans hi, (hdigest i hi).2, hcount 0⟩

end Desk

end Countersign.Serving
