import Countersign.Proofs.Serving.Settling

/-!
# What a run leaves behind

Two things tell afterwards what an application did with its request.

* **The count of its context.** It has gone up by the number of questions that the
  context was given out for (`Countersign.Serving.Program.accesses_run`): those that ask
  for it and those that have the request checked, but none that is asked from a task
  apart, where there is no context to give out.
* **The log.** A step logs a fault, or that bytes came after the digest was taken
  (`Countersign.Serving.Exchange.Step.exists_log_eq`). What became of the context is for the
  gate to log, and modest programs never cause it to be logged
  (`Countersign.Serving.Program.filter_log_run`). And no byte comes too late
  where a program reads its request to the end before it asks for more
  (`Countersign.Serving.Program.ReadsToEnd.lateBytes_not_mem_log`).
-/

namespace Countersign

open Http Digest

universe u

/-- Whether an event is about the context of a request: that nobody asked for it, that it
displaced another one, or that it was not there to be closed. -/
def Event.isOfContext : Event → Bool
  | authNotChecked | contextReplaced | contextNotOpen | contextOutsideScope => true
  | _ => false

/-- What is logged about a fault is neither about the context nor about late bytes. -/
theorem Fault.of_event?_eq_some {f : Fault} {v : Event} (h : f.event? = some v) :
    v.isOfContext = false ∧ v ≠ .lateBytes := by
  induction f with
  | responseFieldCount status count => obtain rfl := Option.some.inj h; decide
  | unknownScheme scheme => obtain rfl := Option.some.inj h; decide
  | keyUnknown name => obtain rfl := Option.some.inj h; decide
  | expired => obtain rfl := Option.some.inj h; decide
  | badSignature => obtain rfl := Option.some.inj h; decide
  | wrongPartner asked => obtain rfl := Option.some.inj h; decide
  -- Signing logs what its cause logs.
  | notSigned cause ih => exact ih h
  | _ => exact absurd h (by simp [event?])

/-- An account complains of bytes that come too late, and of nothing else. -/
theorem Digest.Tally.of_mem_lateBytes? {t : Tally} {data : Bytes} {v : Event}
    (h : v ∈ t.lateBytes? data) : v = .lateBytes ∧ t.isTaken = true ∧ data ≠ [] := by
  cases t with
  | untouched => exact absurd h (by simp [Tally.lateBytes?])
  | running hasher size => exact absurd h (by simp [Tally.lateBytes?])
  | taken digest =>
    rw [Tally.lateBytes?] at h
    split at h
    · exact absurd h (by simp)
    next hdata => exact ⟨(Option.some.inj h).symm, rfl, hdata⟩

namespace Serving

/-! ### The count of a context -/

/-- For how many questions of a run the context in the slot is given out. -/
def Program.lookups {α : Type u} (policy : Policy) (now : Int64) : Program α → Exchange → Nat
  | done _, _ => 0
  | ask q next, e => q.looksUp.toNat +
      (next (q.reply policy now e).1).lookups policy now (q.reply policy now e).2

namespace Desk

theorem accesses_get_of_holding {d : Desk} {c : Context} (h : d.slot = .holding c) :
    d.get.2.accesses c.number = d.accesses c.number + 1 := by
  rw [get, h]
  exact if_pos rfl

@[simp] theorem accesses_takeDigest (d : Desk) (c : Context) :
    (d.takeDigest c).2.accesses = d.accesses := by
  rw [takeDigest]
  cases c.account with
  | none => rfl
  | some n => rfl

/-- Checking gives the context out exactly once, however it ends. -/
theorem accesses_admitted (d : Desk) (ring : KeyRing) (window : UInt64) (now : Int64) :
    (d.admitted ring window now).2.accesses = d.get.2.accesses := by
  have hpresented : d.presented.2.accesses = d.get.2.accesses := by
    rcases presented_snd d with h | ⟨c, h⟩
    · rw [h]
    · rw [h, accesses_takeDigest]
  rcases admitted_snd d ring window now with h | ⟨f, h⟩
  · rw [h, hpresented]
  · rw [h]
    exact hpresented

end Desk

/-- Without lookups nothing is counted. -/
theorem Exchange.Step.accesses_eq {lookups digests : Prop} {e e' : Exchange}
    (h : e.Step lookups digests e') (hnot : ¬lookups) : e'.desk.accesses = e.desk.accesses := by
  cases h with
  | pending d r account => rfl
  | piece d p r account => cases p <;> cases account <;> rfl
  | fault d i f => rfl
  | context d i hlookups => exact absurd hlookups hnot
  | digest d i c hdigests => exact Desk.accesses_takeDigest _ c

/-- **A modest question counts once or not at all.** -/
theorem Ask.accesses_reply {β : Type} {q : Ask β} (hq : q.IsModest) (policy : Policy) (now : Int64)
    {e : Exchange} {c : Context} (h : e.desk.slot = .holding c) :
    (q.reply policy now e).2.desk.accesses c.number =
      e.desk.accesses c.number + q.looksUp.toNat := by
  cases hlooks : q.looksUp with
  | false =>
    have hsame : (q.reply policy now e).2.desk.accesses = e.desk.accesses :=
      reply_invariant (I := fun f => f.desk.accesses = e.desk.accesses) hq policy now
        (fun hstep hf => (hstep.accesses_eq (by simp [hlooks])).trans hf) rfl
    exact congrFun hsame _
  | true =>
    cases q with
    | context => exact Desk.accesses_get_of_holding h
    | admitted =>
      exact (congrFun (Desk.accesses_admitted _ _ _ _) _).trans (Desk.accesses_get_of_holding h)
    | _ => exact Bool.noConfusion hlooks

/-- **The count goes up with every lookup** of a modest program, and with nothing else. -/
theorem Program.accesses_run {α : Type u} {p : Program α} (hp : p.Asks Ask.IsModest)
    (policy : Policy) (now : Int64) {e : Exchange} {c : Context} (h : e.desk.slot = .holding c) :
    (p.run policy now e).2.desk.accesses c.number =
      e.desk.accesses c.number + p.lookups policy now e := by
  induction p generalizing e with
  | done a => rfl
  | ask q next ih =>
    have hslot : (q.reply policy now e).2.desk.slot = .holding c :=
      (Ask.slot_reply hp.1 policy now e).trans h
    rw [run, lookups, ih _ (hp.2 _) hslot, Ask.accesses_reply hp.1 policy now h, Nat.add_assoc]

/-! ### The log -/

/-- The digest of the body has been taken, and there are bytes left to read. -/
structure Exchange.IsLate (n : Nat) (e : Exchange) : Prop where
  account : e.intake.account = some n
  taken : (e.desk.accounts n).isTaken = true
  unread : e.intake.body.bytes ≠ []

namespace Desk

@[simp] theorem log_get (d : Desk) : d.get.2.log = d.log := by
  rw [get]
  split
  · rfl
  · rfl

@[simp] theorem log_takeDigest (d : Desk) (c : Context) : (d.takeDigest c).2.log = d.log := by
  rw [takeDigest]
  cases c.account with
  | none => rfl
  | some n => rfl

end Desk

/-- **What a step logs** is a fault, or that bytes come too late. -/
theorem Exchange.Step.exists_log_eq {lookups digests : Prop} {e e' : Exchange}
    (hstep : e.Step lookups digests e') :
    ∃ events, e'.desk.log = e.desk.log ++ events ∧ ∀ v ∈ events,
      (∃ f : Fault, f.event? = some v) ∨ v = .lateBytes ∧ ∃ n, e.IsLate n := by
  have hnothing {log : List Event} (h : log = e.desk.log) :
      ∃ events, log = e.desk.log ++ events ∧ ∀ v ∈ events,
        (∃ f : Fault, f.event? = some v) ∨ v = .lateBytes ∧ ∃ n, e.IsLate n :=
    ⟨[], h.trans (List.append_nil _).symm, fun v hv => absurd hv List.not_mem_nil⟩
  cases hstep with
  | pending d r account => exact hnothing rfl
  | piece d p r account =>
    cases p with
    | data b =>
      cases account with
      | none => exact hnothing rfl
      | some n =>
        refine ⟨_, rfl, fun v hv => Or.inr ?_⟩
        obtain ⟨rfl, htaken, hdata⟩ := Tally.of_mem_lateBytes? (Option.mem_toList.mp hv)
        exact ⟨rfl, n, rfl, htaken, fun hnil => hdata (List.append_eq_nil_iff.mp hnil).1⟩
    | trailers fields => exact hnothing (by cases account <;> rfl)
    | failure m => exact hnothing (by cases account <;> rfl)
  | context d i hlookups => exact hnothing d.log_get
  | fault d i f => exact ⟨_, rfl, fun v hv => Or.inl ⟨f, Option.mem_toList.mp hv⟩⟩
  | digest d i c hdigests => exact hnothing (d.log_takeDigest c)

/-- **Modest programs log nothing about the context.** -/
theorem Program.filter_log_run {α : Type u} {p : Program α} (hp : p.Asks Ask.IsModest)
    (policy : Policy) (now : Int64) (e : Exchange) :
    (p.run policy now e).2.desk.log.filter Event.isOfContext =
      e.desk.log.filter Event.isOfContext := by
  refine run_invariant_of_step
    (I := fun f => f.desk.log.filter Event.isOfContext = e.desk.log.filter Event.isOfContext) hp
    policy now ?_ rfl
  intro lookups digests f f' hstep hf
  obtain ⟨events, hlog, hevents⟩ := hstep.exists_log_eq
  have hnone : events.filter Event.isOfContext = [] := by
    refine List.filter_eq_nil_iff.mpr fun v hv => ?_
    rcases hevents v hv with ⟨fault, hfault⟩ | ⟨rfl, -⟩
    · simp [(Fault.of_event?_eq_some hfault).1]
    · simp [Event.isOfContext]
  rw [hlog, List.filter_append, hf, hnone, List.append_nil]

/-! ### Reading in time -/

/-- An account that keeps up with the body is not late. -/
theorem Exchange.Counts.not_isLate {n m : Nat} {whole : Bytes} {e : Exchange}
    (h : e.Counts n whole) : ¬e.IsLate m := by
  rintro ⟨haccount, htaken, -⟩
  obtain ⟨hn, done, hdone, -⟩ := h
  obtain rfl := Option.some.inj (hn.symm.trans haccount)
  generalize e.desk.accounts n = t at hdone htaken
  cases t with
  | untouched => exact Bool.noConfusion htaken
  | running hasher size => exact Bool.noConfusion htaken
  | taken digest => exact hdone.elim

/-- Where no byte can come too late, no step logs that one did. -/
theorem Exchange.Step.lateBytes_not_mem_log {lookups digests : Prop} {e e' : Exchange}
    (hstep : e.Step lookups digests e') (hlate : ∀ n, ¬e.IsLate n) (h : .lateBytes ∉ e.desk.log) :
    .lateBytes ∉ e'.desk.log := by
  intro hmem
  obtain ⟨events, hlog, hevents⟩ := hstep.exists_log_eq
  rcases List.mem_append.mp (hlog ▸ hmem) with hbefore | hnew
  · exact h hbefore
  rcases hevents _ hnew with ⟨f, hf⟩ | ⟨-, n, hn⟩
  · exact (Fault.of_event?_eq_some hf).2 rfl
  · exact hlate n hn

theorem Exchange.Step.account_eq {lookups digests : Prop} {e e' : Exchange}
    (hstep : e.Step lookups digests e') : e'.intake.account = e.intake.account := by
  cases hstep <;> rfl

/-- A body that is not digested is never read too late. -/
theorem Program.lateBytes_not_mem_of_account_eq_none {α : Type} {p : Program α}
    (hp : p.Asks Ask.IsModest) (policy : Policy) (now : Int64) {e : Exchange}
    (h : e.intake.account = none ∧ .lateBytes ∉ e.desk.log) :
    (p.run policy now e).2.intake.account = none ∧
      .lateBytes ∉ (p.run policy now e).2.desk.log := by
  refine run_invariant_of_step (I := fun e => e.intake.account = none ∧ .lateBytes ∉ e.desk.log) hp
    policy now ?_ h
  rintro lookups digests e e' hstep ⟨hnone, hlog⟩
  refine ⟨hstep.account_eq.trans hnone, hstep.lateBytes_not_mem_log (fun n hn => ?_) hlog⟩
  exact absurd (hnone.symm.trans hn.account) (by simp)

/-- **Reading a request to its end and then asking for more** leaves no byte for later. -/
theorem Program.ReadsToEnd.lateBytes_not_mem_log {α : Type} {p : Program α} {policy : Policy}
    {now : Int64} {r : Request} (h : p.ReadsToEnd policy now r) :
    .lateBytes ∉ (p.run policy now (Exchange.arrival r)).2.desk.log := by
  obtain ⟨β, read, next, rfl, hpatient, hend, hmodest⟩ := h
  rw [run_bind]
  cases hc : Gate.hasCredentials r.toHead with
  | true =>
    -- While it is being read, the account keeps up with the body.
    obtain ⟨hcounts, hread⟩ := run_invariant_of_patient_step
      (I := fun e => e.Counts 0 r.body.bytes ∧ .lateBytes ∉ e.desk.log) hpatient policy now
      (fun hnot hstep he => ⟨he.1.step hnot hstep,
        hstep.lateBytes_not_mem_log (fun _ => he.1.not_isLate) he.2⟩)
      ⟨Exchange.counts_arrival hc, List.not_mem_nil⟩
    -- After that nothing is left that could come too late.
    refine (run_invariant_of_step (I := fun e => e.AtEnd 0 r.body.bytes ∧ .lateBytes ∉ e.desk.log)
      (hmodest _) policy now ?_ ⟨hcounts.atEnd hend, hread⟩).2
    rintro lookups digests e e' hstep ⟨hatEnd, hlog⟩
    refine ⟨hatEnd.step hstep, hstep.lateBytes_not_mem_log (fun n hn => hn.unread ?_) hlog⟩
    rw [hatEnd.body]
    rfl
  | false =>
    have hnone : (Exchange.arrival r).intake.account = none := by
      show (if Gate.hasCredentials r.toHead then some 0 else none) = none
      rw [hc]
      rfl
    have hread := lateBytes_not_mem_of_account_eq_none
      (hpatient.mono fun _ => Ask.IsPatient.isModest) policy now ⟨hnone, List.not_mem_nil⟩
    exact (lateBytes_not_mem_of_account_eq_none (hmodest _) policy now hread).2

end Serving

end Countersign
