import Countersign.Proofs.Serving.Reading

/-!
# Checking a request that is not read to its end

An application may ask for the digest of the body, or have its request checked, at any
moment, and read on afterwards. The digest is then that of a beginning of the body: of
what had been read when it was taken for the first time. So every check comes to the
verdict on a beginning of the body
(`Countersign.Serving.Gate.exists_verdict_of_checking`), on all of it if the application
has read it to its end before.

* **A digest that was taken stays**, whatever is asked afterwards
  (`Countersign.Serving.Exchange.Step.settled`).
* **Until then the account keeps up with the body**, so what is taken is the digest of a
  beginning of it (`Countersign.Serving.Exchange.Tracks`).
-/

namespace Countersign.Serving

open Http Digest

/-! ### A digest that was taken stays -/

/-- The digest of account `n` has been taken. -/
def Desk.Settled (n : Nat) (digest : Option Text) (d : Desk) : Prop :=
  d.accounts n = .taken digest

namespace Desk.Settled

variable {n : Nat} {digest : Option Text} {d : Desk}

theorem feed (h : d.Settled n digest) (m : Nat) (data : Bytes) :
    (d.feed m data).Settled n digest := by
  show (if n = m then (d.accounts m).feed data else d.accounts n) = .taken digest
  split
  next hm =>
    rw [← hm, h]
    rfl
  next => exact h

theorem record (h : d.Settled n digest) (account : Option Nat) (p : Piece) :
    (Intake.record account p d).Settled n digest := by
  cases p with
  | data b =>
    cases account with
    | none => exact h
    | some m => exact h.feed m b
  | trailers fields => exact h
  | failure m => exact h

theorem takeDigest (h : d.Settled n digest) (c : Context) :
    (d.takeDigest c).2.Settled n digest := by
  rw [Desk.takeDigest]
  cases c.account with
  | none => exact h
  | some m =>
    show (if n = m then (d.accounts m).take else d.accounts n) = .taken digest
    split
    next hm =>
      rw [← hm, h]
      rfl
    next => exact h

end Desk.Settled

/-- **A digest that was taken stays**, whatever step is made. -/
theorem Exchange.Step.settled {lookups digests : Prop} {n : Nat} {digest : Option Text}
    {e e' : Exchange} (hstep : e.Step lookups digests e') (h : e.desk.Settled n digest) :
    e'.desk.Settled n digest := by
  cases hstep with
  | pending d r account => exact h
  | piece d p r account => exact h.record account p
  | context d i hlookups => exact (congrFun d.accounts_get n).trans h
  | fault d i f => exact h
  | digest d i c hdigests => exact h.takeDigest c

/-! ### The digest of a beginning -/

/-- Either account `n` keeps up with the body, or the digest of a beginning of the body has been
taken from it. -/
def Exchange.Tracks (n : Nat) (whole : Bytes) (e : Exchange) : Prop :=
  e.Counts n whole ∨ ∃ seen, seen <+: whole ∧ e.desk.Settled n (ofBytes seen)

/-- What can be taken from an account now is the digest of a beginning of the body. -/
theorem Exchange.Tracks.exists_digest_eq {n : Nat} {whole : Bytes} {e : Exchange}
    (h : e.Tracks n whole) :
    ∃ seen, seen <+: whole ∧ (e.desk.accounts n).digest = ofBytes seen := by
  rcases h with ⟨-, done, hdone, hwhole⟩ | ⟨seen, hseen, hsettled⟩
  · exact ⟨done, ⟨_, hwhole⟩, Tally.digest_of_holds hdone⟩
  · refine ⟨seen, hseen, ?_⟩
    rw [hsettled]
    rfl

/-- **Taking a digest** of an account that keeps up settles on a beginning of the body. -/
theorem Exchange.Counts.tracks_takeDigest {n : Nat} {whole : Bytes} {d : Desk} {i : Intake}
    (h : Exchange.Counts n whole ⟨d, i⟩) (c : Context) :
    Exchange.Tracks n whole ⟨(d.takeDigest c).2, i⟩ := by
  rw [Desk.takeDigest]
  cases c.account with
  | none => exact Or.inl h
  | some m =>
    obtain ⟨haccount, done, hdone, hwhole⟩ := h
    by_cases hm : n = m
    · refine Or.inr ⟨done, ⟨_, hwhole⟩, ?_⟩
      show (if n = m then (d.accounts m).take else d.accounts n) = .taken (ofBytes done)
      rw [if_pos hm, ← hm, Tally.take, Tally.digest_of_holds hdone]
    · refine Or.inl ⟨haccount, done, ?_, hwhole⟩
      show Tally.Holds done (if n = m then (d.accounts m).take else d.accounts n)
      rw [if_neg hm]
      exact hdone

/-- **Every step** keeps the account up with the body, or settles on a beginning of it. -/
theorem Exchange.Tracks.step {lookups digests : Prop} {n : Nat} {whole : Bytes} {e e' : Exchange}
    (h : e.Tracks n whole) (hstep : e.Step lookups digests e') : e'.Tracks n whole := by
  rcases h with h | ⟨seen, hseen, hsettled⟩
  · rcases hstep.without_digest with hread | ⟨c, rfl⟩
    · exact Or.inl (h.step not_false hread)
    · exact h.tracks_takeDigest c
  · exact Or.inr ⟨seen, hseen, hstep.settled hsettled⟩

/-- **A modest program** keeps the account up with the body, or settles on a beginning of it. -/
theorem Program.tracks_run {α : Type} {p : Program α} (hp : p.Asks Ask.IsModest) (policy : Policy)
    (now : Int64) {n : Nat} {whole : Bytes} {e : Exchange} (h : e.Tracks n whole) :
    (p.run policy now e).2.Tracks n whole :=
  run_invariant_of_step hp policy now (fun hstep he => he.step hstep) h

/-! ### Checks at any moment -/

/-- The account of a request on arrival keeps up with its body. -/
theorem Exchange.counts_arrival {r : Request} (h : Gate.hasCredentials r.toHead = true) :
    (arrival r).Counts 0 r.body.bytes :=
  ⟨if_pos h, [], Tally.holds_untouched, rfl⟩

/-- **Checking at any moment**: whoever checks a request, after modest questions of whatever kind,
is told the verdict on its head and a beginning of its body. -/
theorem Gate.exists_verdict_of_checking (g : Gate) (now : Int64) {α : Type}
    (before : Head → Program α)
    (go : Head → α → Except Fault Admitted → Program (Except Failure Response)) (r : Request)
    (hbefore : (before r.toHead).Asks Ask.IsModest) :
    ∃ seen, seen <+: r.body.bytes ∧
      (g.serve now (checking before go) r).1.2 = g.verdict now r.toHead seen := by
  have hslot := Program.slot_run hbefore g.toPolicy now (Exchange.arrival r)
  rw [report_serve_checking_eq_reply]
  cases hc : hasCredentials r.toHead with
  | true =>
    have htracks := Program.tracks_run hbefore g.toPolicy now
      (Or.inl (Exchange.counts_arrival hc))
    obtain ⟨seen, hseen, hdigest⟩ := htracks.exists_digest_eq
    exact ⟨seen, hseen, Desk.admitted_of_digest g.toPolicy now hslot fun h =>
      ⟨0, if_pos h, hdigest⟩⟩
  | false =>
    refine ⟨[], List.nil_prefix, Desk.admitted_of_digest g.toPolicy now hslot fun h => ?_⟩
    exact absurd (hc.symm.trans h) (by decide)

end Countersign.Serving
