import Countersign.Serving.Program
import Mathlib.Logic.Relation

/-!
# Runs of programs

What holds before a program runs and is kept by the reply to every question that the
program can come to ask holds after the run
(`Countersign.Serving.Program.run_invariant`). So a statement about runs is one about
single questions.

The questions of modest programs do few things, and do them one after the other: they take
frames off the body, log a fault, give out the context, or take a digest
(`Countersign.Serving.Exchange.Step`). Each reply is a sequence of such **steps**
(`Countersign.Serving.Ask.steps_reply`), also where the question is asked from a task
apart. So an invariant of modest programs is what five kinds of step keep
(`Countersign.Serving.Program.run_invariant_of_step`), and for *patient* programs, which
take no digest, it is four.

The first invariant of this kind is the slot: modest programs leave it as it is
(`Countersign.Serving.Program.slot_run`).
-/

namespace Countersign.Serving

open Http

universe u

/-! ### Invariants -/

/-- Programs that ask less. -/
theorem Program.Asks.mono {α : Type u} {p : Program α} {P Q : {β : Type} → Ask β → Prop}
    (hPQ : ∀ {β : Type} (q : Ask β), P q → Q q) (hp : p.Asks P) : p.Asks Q := by
  induction p with
  | done a => trivial
  | ask q next ih => exact ⟨hPQ q hp.1, fun b => ih b (hp.2 b)⟩

/-- **An invariant of a run**: what the reply to every question keeps, the program keeps. -/
theorem Program.run_invariant {α : Type u} {p : Program α} {P : {β : Type} → Ask β → Prop}
    {I : Exchange → Prop} (hp : p.Asks P) (policy : Policy) (now : Int64)
    (hreply : ∀ {β : Type} (q : Ask β) (e : Exchange), P q → I e → I (q.reply policy now e).2)
    {e : Exchange} (he : I e) : I (p.run policy now e).2 := by
  induction p generalizing e with
  | done a => exact he
  | ask q next ih => exact ih _ (hp.2 _) (hreply q e hp.1 he)

/-! ### What presenting and checking do -/

namespace Desk

/-- What presenting does to a desk: it gives out the context, and may take a digest. -/
theorem presented_snd (d : Desk) :
    d.presented.2 = d.get.2 ∨ ∃ c, d.presented.2 = (d.get.2.takeDigest c).2 := by
  rw [presented]
  obtain ⟨f | c, e⟩ := d.get
  · exact Or.inl rfl
  simp only
  rcases Credentials.ofRequest c.head.fields with f | a
  · exact Or.inl rfl
  refine Or.inr ⟨c, ?_⟩
  simp only
  obtain ⟨f | digest, e'⟩ := e.takeDigest c
  · rfl
  simp only
  rcases Canonical.Request.received c.head a.signedNames digest with f | r
  · rfl
  · rfl

/-- What checking does to a desk: it presents, and may log a fault. -/
theorem admitted_snd (d : Desk) (ring : KeyRing) (window : UInt64) (now : Int64) :
    (d.admitted ring window now).2 = d.presented.2 ∨
      ∃ f, (d.admitted ring window now).2 = d.presented.2.noteFault f := by
  rw [admitted]
  obtain ⟨f | i, e⟩ := d.presented
  · exact Or.inl rfl
  simp only
  rcases admission ring window now i.credentials i.request with f | a
  · exact Or.inr ⟨f, rfl⟩
  · exact Or.inl rfl

end Desk

/-! ### What questions do without -/

/-- Modest questions that do not take the digest either. They read, look at what there is, and
ask about someone who was admitted before. -/
def Ask.IsPatient : {β : Type} → Ask β → Prop
  | _, digest _ => False
  | _, admitted => False
  | _, install _ => False
  | _, close => False
  | _, apart q => q.IsPatient
  | _, _ => True

theorem Ask.IsPatient.isModest {β : Type} {q : Ask β} (h : q.IsPatient) : q.IsModest := by
  induction q with
  | digest c => exact h.elim
  | admitted => exact h.elim
  | install c => exact h
  | close => exact h
  | apart q ih => exact ih h
  | _ => trivial

/-- Whether the context in the slot is given out for a question. -/
def Ask.looksUp : {β : Type} → Ask β → Bool
  | _, context => true
  | _, admitted => true
  | _, _ => false

/-! ### Steps -/

namespace Exchange

/-- What modest questions do to an exchange, one thing at a time. There are parameters for whether
the context is given out and whether digests are taken, since many questions do without. -/
inductive Step (lookups digests : Prop) : Exchange → Exchange → Prop where
  /-- Wait for the next frame. -/
  | pending (d : Desk) (r : Body) (account : Option Nat) :
      Step lookups digests ⟨d, ⟨.pending :: r, account⟩⟩ ⟨d, ⟨r, account⟩⟩
  /-- Read a piece. -/
  | piece (d : Desk) (p : Piece) (r : Body) (account : Option Nat) :
      Step lookups digests ⟨d, ⟨.piece p :: r, account⟩⟩ ⟨Intake.record account p d, ⟨r, account⟩⟩
  /-- Log a fault. -/
  | fault (d : Desk) (i : Intake) (f : Fault) : Step lookups digests ⟨d, i⟩ ⟨d.noteFault f, i⟩
  /-- Give out the context in the slot. -/
  | context (d : Desk) (i : Intake) (h : lookups) : Step lookups digests ⟨d, i⟩ ⟨d.get.2, i⟩
  /-- Take a digest. -/
  | digest (d : Desk) (i : Intake) (c : Context) (h : digests) :
      Step lookups digests ⟨d, i⟩ ⟨(d.takeDigest c).2, i⟩

/-- Some steps, one after the other. -/
abbrev Steps (lookups digests : Prop) : Exchange → Exchange → Prop :=
  Relation.ReflTransGen (Step lookups digests)

variable {lookups lookups' digests : Prop}

/-- What every step keeps, a sequence of steps keeps. -/
theorem Steps.invariant {I : Exchange → Prop} {e e' : Exchange} (h : Steps lookups digests e e')
    (hstep : ∀ {f f' : Exchange}, Step lookups digests f f' → I f → I f') (he : I e) : I e' := by
  induction h with
  | refl => exact he
  | tail _ hlast ih => exact hstep hlast ih

/-- A step that takes no digest would also be one where none are taken. -/
theorem Step.without_digest {e e' : Exchange} (h : Step lookups digests e e') :
    Step lookups False e e' ∨ ∃ c, e' = { e with desk := (e.desk.takeDigest c).2 } := by
  cases h with
  | pending d r account => exact Or.inl (.pending d r account)
  | piece d p r account => exact Or.inl (.piece d p r account)
  | fault d i f => exact Or.inl (.fault d i f)
  | context d i hlookups => exact Or.inl (.context d i hlookups)
  | digest d i c hdigests => exact Or.inr ⟨c, rfl⟩

/-- **Steps outside of every scope** are steps with any slot, and without lookups: what the slot
holds matters only to those who ask for it, and outside of every scope they get nothing. -/
theorem Step.inSlot {e e' : Exchange} (h : Step lookups digests e e')
    (houtside : e.desk.slot = .outside) (slot : Slot) :
    e'.desk.slot = .outside ∧
      Steps lookups' digests { e with desk.slot := slot } { e' with desk.slot := slot } := by
  cases h with
  | pending d r account => exact ⟨houtside, .single (.pending { d with slot := slot } r account)⟩
  | piece d p r account =>
    have hrecord : (Intake.record account p d).slot = d.slot ∧
        Intake.record account p { d with slot := slot } =
          { Intake.record account p d with slot := slot } := by
      cases p <;> cases account <;> exact ⟨rfl, rfl⟩
    refine ⟨hrecord.1.trans houtside, ?_⟩
    have hstep : Step lookups' digests _ _ := .piece { d with slot := slot } p r account
    rw [hrecord.2] at hstep
    exact .single hstep
  | fault d i f => exact ⟨houtside, .single (.fault { d with slot := slot } i f)⟩
  | context d i hlookups =>
    have hnothing : d.get.2 = d := by
      rw [Desk.get, show d.slot = .outside from houtside]
    rw [hnothing]
    exact ⟨houtside, .refl⟩
  | digest d i c hdigests =>
    have htake : (d.takeDigest c).2.slot = d.slot ∧
        (Desk.takeDigest { d with slot := slot } c).2 =
          { (d.takeDigest c).2 with slot := slot } := by
      rw [Desk.takeDigest, Desk.takeDigest]
      cases c.account <;> exact ⟨rfl, rfl⟩
    refine ⟨htake.1.trans houtside, ?_⟩
    have hstep : Step lookups' digests _ _ := .digest { d with slot := slot } i c hdigests
    rw [htake.2] at hstep
    exact .single hstep

theorem Steps.inSlot {e e' : Exchange} (h : Steps lookups digests e e')
    (houtside : e.desk.slot = .outside) (slot : Slot) :
    Steps lookups' digests { e with desk.slot := slot } { e' with desk.slot := slot } := by
  have hboth : e'.desk.slot = .outside ∧
      Steps lookups' digests { e with desk.slot := slot } { e' with desk.slot := slot } := by
    induction h with
    | refl => exact ⟨houtside, .refl⟩
    | tail _ hlast ih =>
      obtain ⟨hslot, hsteps⟩ := hlast.inSlot ih.1 slot
      exact ⟨hslot, ih.2.trans hsteps⟩
  exact hboth.2

end Exchange

namespace Intake

open Exchange

/-- Waiting for a piece takes frames off the body. -/
theorem steps_next (lookups digests : Prop) (i : Intake) (d : Desk) :
    Steps lookups digests ⟨d, i⟩ ⟨(i.next d).2.2, (i.next d).2.1⟩ := by
  obtain ⟨body, account⟩ := i
  induction body with
  | nil => exact .refl
  | cons frame r ih =>
    cases frame with
    | pending => exact .head (.pending d r account) ih
    | piece p => exact .single (.piece d p r account)

/-- Reading on takes frames off the body, up to and with the first failure. -/
theorem steps_drain (lookups digests : Prop) (account : Option Nat) (b : Body) (d : Desk) :
    Steps lookups digests ⟨d, ⟨b, account⟩⟩
      ⟨(drain account b d).2.2, ⟨(drain account b d).2.1, account⟩⟩ := by
  induction b generalizing d with
  | nil => exact .refl
  | cons frame r ih =>
    cases frame with
    | pending => exact .head (.pending d r account) (ih d)
    | piece p =>
      cases p with
      | data bytes => exact .head (.piece d _ r account) (ih _)
      | trailers fields => exact .head (.piece d _ r account) (ih _)
      | failure m =>
        have hrecord : record account (.failure m) d = d := by cases account <;> rfl
        have hstep : Step lookups digests _ _ := .piece d (.failure m) r account
        rw [hrecord] at hstep
        exact .single hstep

end Intake

open Exchange in
/-- **The reply to a modest question is a sequence of steps**, with lookups only if the question
looks the context up, and in which no digest is taken if it is patient. -/
theorem Ask.steps_reply {β : Type} {q : Ask β} (hq : q.IsModest) (policy : Policy) (now : Int64)
    (e : Exchange) : Steps (q.looksUp = true) (¬q.IsPatient) e (q.reply policy now e).2 := by
  induction q generalizing e with
  | piece => exact Intake.steps_next _ _ _ _
  | rest => exact Intake.steps_drain _ _ _ _ _
  | outlook => exact .refl
  | context => exact .single (.context _ _ rfl)
  | accesses c => exact .refl
  | digest c => exact .single (.digest _ _ c id)
  | admitted =>
    have hpresented : Steps (Ask.admitted.looksUp = true) (¬Ask.admitted.IsPatient) e
        { e with desk := e.desk.presented.2 } := by
      rcases e.desk.presented_snd with h | ⟨c, h⟩
      · rw [h]
        exact .single (.context _ _ rfl)
      · rw [h]
        exact .tail (.single (.context _ _ rfl)) (.digest _ _ c id)
    show Steps _ _ e { e with desk := (e.desk.admitted policy.ring policy.window now).2 }
    rcases e.desk.admitted_snd policy.ring policy.window now with h | ⟨f, h⟩
    · rw [h]
      exact hpresented
    · rw [h]
      exact hpresented.tail (.fault _ _ f)
  | mustBe a partner =>
    rw [reply]
    cases a.mustBe partner with
    | ok u => exact .refl
    | error f => exact .single (.fault _ _ f)
  | install c => exact hq.elim
  | close => exact hq.elim
  | apart q ih => exact (ih hq { e with desk.slot := .outside }).inSlot rfl e.desk.slot

/-- What every step keeps, the reply to a modest question keeps. -/
theorem Ask.reply_invariant {β : Type} {q : Ask β} {I : Exchange → Prop} (hq : q.IsModest)
    (policy : Policy) (now : Int64)
    (hstep : ∀ {e e' : Exchange}, e.Step (q.looksUp = true) (¬q.IsPatient) e' → I e → I e')
    {e : Exchange} (he : I e) : I (q.reply policy now e).2 :=
  (Ask.steps_reply hq policy now e).invariant hstep he

/-- **An invariant of modest programs** is what every step keeps. -/
theorem Program.run_invariant_of_step {α : Type u} {p : Program α} {I : Exchange → Prop}
    (hp : p.Asks Ask.IsModest) (policy : Policy) (now : Int64)
    (hstep : ∀ {lookups digests : Prop} {e e' : Exchange}, e.Step lookups digests e' → I e → I e')
    {e : Exchange} (he : I e) : I (p.run policy now e).2 :=
  run_invariant hp policy now (fun _ _ hq => Ask.reply_invariant hq policy now hstep) he

/-- **An invariant of patient programs** is what every step keeps that takes no digest. -/
theorem Program.run_invariant_of_patient_step {α : Type u} {p : Program α} {I : Exchange → Prop}
    (hp : p.Asks Ask.IsPatient) (policy : Policy) (now : Int64)
    (hstep : ∀ {lookups digests : Prop} {e e' : Exchange}, ¬digests →
      e.Step lookups digests e' → I e → I e')
    {e : Exchange} (he : I e) : I (p.run policy now e).2 :=
  run_invariant hp policy now (fun _ _ hq =>
    Ask.reply_invariant hq.isModest policy now (hstep (not_not_intro hq))) he

/-! ### The slot -/

namespace Desk

@[simp] theorem slot_get (d : Desk) : d.get.2.slot = d.slot := by
  rw [get]
  split
  · rfl
  · rfl

@[simp] theorem slot_takeDigest (d : Desk) (c : Context) : (d.takeDigest c).2.slot = d.slot := by
  rw [takeDigest]
  cases c.account with
  | none => rfl
  | some n => rfl

end Desk

@[simp] theorem Intake.slot_record (account : Option Nat) (p : Piece) (d : Desk) :
    (record account p d).slot = d.slot := by
  cases p <;> cases account <;> rfl

theorem Exchange.Step.slot_eq {lookups digests : Prop} {e e' : Exchange}
    (h : e.Step lookups digests e') : e'.desk.slot = e.desk.slot := by
  cases h with
  | pending d r account => rfl
  | piece d p r account => exact Intake.slot_record _ _ _
  | fault d i f => rfl
  | context d i hlookups => exact Desk.slot_get _
  | digest d i c hdigests => exact Desk.slot_takeDigest _ c

/-- **A modest question leaves the slot as it is.** -/
theorem Ask.slot_reply {β : Type} {q : Ask β} (hq : q.IsModest) (policy : Policy) (now : Int64)
    (e : Exchange) : (q.reply policy now e).2.desk.slot = e.desk.slot :=
  reply_invariant (I := fun f => f.desk.slot = e.desk.slot) hq policy now
    (fun hstep hf => hstep.slot_eq.trans hf) rfl

/-- **Modest programs leave the slot as it is.** -/
theorem Program.slot_run {α : Type u} {p : Program α} (hp : p.Asks Ask.IsModest)
    (policy : Policy) (now : Int64) (e : Exchange) : (p.run policy now e).2.desk.slot = e.desk.slot :=
  run_invariant_of_step (I := fun f => f.desk.slot = e.desk.slot) hp policy now
    (fun hstep hf => hstep.slot_eq.trans hf) rfl

end Countersign.Serving
