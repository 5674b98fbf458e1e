import Countersign.Proofs.Canonical.Builders
import Countersign.Proofs.Serving.Demands
import Countersign.Proofs.Serving.Reading

/-!
# Two requests that differ in what is not covered

Take a request, and change fields of it that its credentials do not cover. Which fields are
covered is said by the credentials, that is, by one of the fields; so two collections of fields
*agree* (`Countersign.Serving.AgreeOnCovered`) if they have the same `Authorization` values and,
where these present credentials, the same values under every name listed there. All other fields
may come, go, change and change places.

That a server looks at nothing else is shown by running it on both requests side by side.

* **Desks agree** (`Countersign.Serving.Desk.Agrees`) if they differ in the fields of the context
  in the slot, and in nothing else. Counts, accounts and log are the same.
* **A question is blind** (`Countersign.Serving.Ask.IsBlind`) if its reply does not show the
  context. At desks that agree it gets one reply, and the desks agree afterwards
  (`Countersign.Serving.Ask.agrees_reply`). The case that matters is the check: credentials,
  covered fields, digest and verdict are the same, and so is what is logged about a fault.
* **A blind program** asks blind questions only. By induction on the program, its two runs are
  one (`Countersign.Serving.Program.agrees_run`), whenever it checks its request and however
  often, and even if it meddles with the slot.
-/

namespace Countersign.Serving

open Http

/-! ### Fields that agree -/

/-- Fields that agree in all that credentials can cover: they have the same `Authorization` values
and, if these present credentials, the same values in the same order under every name that the
credentials list. -/
structure AgreeOnCovered (fields fields' : Fields) : Prop where
  authorization : Carrier.authorization.values fields' = Carrier.authorization.values fields
  covered : ∀ c, Presents fields c → ∀ n ∈ c.signedNames, fields'.values n = fields.values n

namespace AgreeOnCovered

variable {fields fields' : Fields}

theorem refl (fields : Fields) : AgreeOnCovered fields fields := ⟨rfl, fun _ _ _ _ => rfl⟩

/-- The same credentials, or the same reason why there are none. -/
theorem ofRequest_eq (h : AgreeOnCovered fields fields') :
    Credentials.ofRequest fields' = Credentials.ofRequest fields := by
  rw [Credentials.ofRequest, Credentials.ofRequest, h.authorization]

variable {head : Head}

theorem hasCredentials_eq (h : AgreeOnCovered head.fields fields') :
    Gate.hasCredentials { head with fields := fields' } = Gate.hasCredentials head := by
  rw [Gate.hasCredentials, Gate.hasCredentials, Fields.has, Fields.has]
  exact congrArg (fun values => !values.isEmpty) h.authorization

/-- The same canonical message, or the same reason why there is none. -/
theorem received_eq (h : AgreeOnCovered head.fields fields') {c : Credentials}
    (hc : Credentials.ofRequest head.fields = .ok c) (digest : Option Text) :
    Canonical.Request.received { head with fields := fields' } c.signedNames digest =
      Canonical.Request.received head c.signedNames digest :=
  Canonical.Request.received_congr (h.covered c (presents_iff.mpr hc)) digest

end AgreeOnCovered

/-! ### Desks that agree -/

/-- Two slots that are alike but for fields of a context that are not covered. -/
inductive Slot.Agrees : Slot → Slot → Prop
  | outside : Agrees .outside .outside
  | vacant : Agrees .vacant .vacant
  | holding (c : Context) (fields : Fields) (h : AgreeOnCovered c.head.fields fields) :
      Agrees (.holding c) (.holding { c with head.fields := fields })

theorem Slot.Agrees.refl (s : Slot) : s.Agrees s := by
  cases s with
  | outside => exact .outside
  | vacant => exact .vacant
  | holding c => exact .holding c c.head.fields (AgreeOnCovered.refl _)

/-- Two desks that differ in nothing but their slots, and those agree. -/
def Desk.Agrees (d d' : Desk) : Prop := ∃ slot, d.slot.Agrees slot ∧ d' = { d with slot := slot }

/-- Two replies that are the same, with states after them that are related. -/
def SameReply {α σ : Type} (R : σ → σ → Prop) (x x' : α × σ) : Prop :=
  ∃ a s s', x = (a, s) ∧ x' = (a, s') ∧ R s s'

namespace Desk.Agrees

variable {d d' : Desk}

theorem refl (d : Desk) : d.Agrees d := ⟨d.slot, .refl _, rfl⟩

theorem noteFault (h : d.Agrees d') (f : Fault) : (d.noteFault f).Agrees (d'.noteFault f) := by
  obtain ⟨slot, hslot, rfl⟩ := h
  exact ⟨slot, hslot, rfl⟩

theorem record (h : d.Agrees d') (account : Option Nat) (p : Piece) :
    (Intake.record account p d).Agrees (Intake.record account p d') := by
  obtain ⟨slot, hslot, rfl⟩ := h
  refine ⟨slot, Intake.slot_record account p d ▸ hslot, ?_⟩
  cases p <;> cases account <;> rfl

/-- The fields of a context do not matter to its account. -/
theorem takeDigest (h : d.Agrees d') (c : Context) (fields : Fields) :
    SameReply Agrees (d.takeDigest c) (d'.takeDigest { c with head.fields := fields }) := by
  obtain ⟨slot, hslot, rfl⟩ := h
  rw [Desk.takeDigest, Desk.takeDigest]
  rcases c.account with _ | n
  · exact ⟨_, _, _, rfl, rfl, slot, hslot, rfl⟩
  · exact ⟨_, _, _, rfl, rfl, slot, hslot, rfl⟩

theorem install (h : d.Agrees d') (c : Context) : SameReply Agrees (d.install c) (d'.install c) := by
  obtain ⟨slot, hslot, rfl⟩ := h
  obtain ⟨slot₀, accesses, accounts, log⟩ := d
  cases hslot with
  | outside => exact ⟨_, _, _, rfl, rfl, refl _⟩
  | vacant => exact ⟨_, _, _, rfl, rfl, refl _⟩
  | holding c₀ fields hfields => exact ⟨_, _, _, rfl, rfl, refl _⟩

theorem close (h : d.Agrees d') : d.close.Agrees d'.close := by
  obtain ⟨slot, hslot, rfl⟩ := h
  obtain ⟨slot₀, accesses, accounts, log⟩ := d
  cases hslot with
  | outside => exact refl _
  | vacant => exact refl _
  | holding c fields hfields => exact refl _

/-- **Giving out a context** fails at both desks, or gives out contexts that differ in their fields
only, and those agree. -/
theorem get (h : d.Agrees d') :
    (d.get = (.error .noContext, d) ∧ d'.get = (.error .noContext, d')) ∨
      ∃ c fields e e', AgreeOnCovered c.head.fields fields ∧ d.get = (.ok c, e) ∧
        d'.get = (.ok { c with head.fields := fields }, e') ∧ e.Agrees e' := by
  obtain ⟨slot, hslot, rfl⟩ := h
  obtain ⟨slot₀, accesses, accounts, log⟩ := d
  cases hslot with
  | outside => exact Or.inl ⟨rfl, rfl⟩
  | vacant => exact Or.inl ⟨rfl, rfl⟩
  | holding c fields hfields =>
    exact Or.inr ⟨c, fields, _, _, hfields, rfl, rfl, _, .holding c fields hfields, rfl⟩

/-- **What is presented** is the same: credentials and message, or the reason for having neither. -/
theorem presented (h : d.Agrees d') : SameReply Agrees d.presented d'.presented := by
  rw [Desk.presented, Desk.presented]
  rcases h.get with ⟨hget, hget'⟩ | ⟨c, fields, e, e', hfields, hget, hget', he⟩
  · rw [hget, hget']
    exact ⟨_, _, _, rfl, rfl, h⟩
  rw [hget, hget']
  simp only [hfields.ofRequest_eq]
  rcases hread : Credentials.ofRequest c.head.fields with f | a
  · exact ⟨_, _, _, rfl, rfl, he⟩
  obtain ⟨digest, d₁, d₁', hdigest, hdigest', hd₁⟩ := he.takeDigest c fields
  simp only [hdigest, hdigest']
  rcases digest with f | digest
  · exact ⟨_, _, _, rfl, rfl, hd₁⟩
  simp only [hfields.received_eq hread]
  rcases Canonical.Request.received c.head a.signedNames digest with f | r
  · exact ⟨_, _, _, rfl, rfl, hd₁⟩
  · exact ⟨_, _, _, rfl, rfl, hd₁⟩

/-- **What a check comes to** is the same, also in the log. -/
theorem admitted (h : d.Agrees d') (ring : KeyRing) (window : UInt64) (now : Int64) :
    SameReply Agrees (d.admitted ring window now) (d'.admitted ring window now) := by
  obtain ⟨presented, e, e', hpresented, hpresented', he⟩ := h.presented
  rw [Desk.admitted, Desk.admitted, hpresented, hpresented']
  rcases presented with f | i
  · exact ⟨_, _, _, rfl, rfl, he⟩
  simp only
  rcases admission ring window now i.credentials i.request with f | a
  · exact ⟨_, _, _, rfl, rfl, he.noteFault f⟩
  · exact ⟨_, _, _, rfl, rfl, he⟩

end Desk.Agrees

/-! ### Reading -/

namespace Intake

variable {d d' : Desk}

/-- Waiting for a piece feeds the same into the accounts of both desks. -/
theorem agrees_next (h : d.Agrees d') (i : Intake) :
    ∃ p rest e e', i.next d = (p, rest, e) ∧ i.next d' = (p, rest, e') ∧ e.Agrees e' := by
  rw [next, next]
  rcases i.body.next with ⟨_ | p, r⟩
  · exact ⟨_, _, _, _, rfl, rfl, h⟩
  · exact ⟨_, _, _, _, rfl, rfl, h.record i.account p⟩

/-- So does reading on. -/
theorem agrees_drain (h : d.Agrees d') (account : Option Nat) (b : Body) :
    ∃ data left e e', drain account b d = (data, left, e) ∧ drain account b d' = (data, left, e') ∧
      e.Agrees e' := by
  induction b generalizing d d' with
  | nil => exact ⟨_, _, _, _, rfl, rfl, h⟩
  | cons frame r ih =>
    rcases frame with (bytes | fields | m) | _
    · obtain ⟨data, left, e, e', hdrain, hdrain', he⟩ := ih (h.record account (.data bytes))
      simp only [drain, hdrain, hdrain']
      exact ⟨_, _, _, _, rfl, rfl, he⟩
    · obtain ⟨data, left, e, e', hdrain, hdrain', he⟩ := ih (h.record account (.trailers fields))
      simp only [drain, hdrain, hdrain']
      exact ⟨_, _, _, _, rfl, rfl, he⟩
    · exact ⟨_, _, _, _, rfl, rfl, h⟩
    · exact ih h

end Intake

/-! ### Blind programs -/

/-- Questions that do not show the context of the request. From a task apart there is none to be
shown. -/
def Ask.IsBlind : {β : Type} → Ask β → Prop
  | _, context => False
  | _, _ => True

/-- Two exchanges in which the same is left of the body, at desks that agree. -/
structure Exchange.Agrees (e e' : Exchange) : Prop where
  intake : e.intake = e'.intake
  desk : e.desk.Agrees e'.desk

/-- What is done at desks that agree, and gives the same reply there. -/
theorem Exchange.agrees_atDesk {β : Type} {d d' : Desk} {act : Desk → β × Desk}
    (h : SameReply Desk.Agrees (act d) (act d')) (i : Intake) :
    SameReply Agrees (atDesk ⟨d, i⟩ act) (atDesk ⟨d', i⟩ act) := by
  obtain ⟨b, e, e', hb, hb', he⟩ := h
  rw [atDesk, atDesk]
  simp only [hb, hb']
  exact ⟨_, _, _, rfl, rfl, rfl, he⟩

/-- **A blind question gets the same reply** in exchanges that agree, and they agree after it. -/
theorem Ask.agrees_reply {β : Type} {q : Ask β} (hq : q.IsBlind) (policy : Policy) (now : Int64)
    {e e' : Exchange} (h : e.Agrees e') :
    SameReply Exchange.Agrees (q.reply policy now e) (q.reply policy now e') := by
  obtain ⟨d, i⟩ := e
  obtain ⟨d', i'⟩ := e'
  obtain ⟨hintake, hdesk⟩ := h
  obtain rfl : i = i' := hintake
  replace hdesk : d.Agrees d' := hdesk
  cases q with
  | piece =>
    obtain ⟨p, rest, e, e', hnext, hnext', he⟩ := Intake.agrees_next hdesk i
    simp only [reply, hnext, hnext']
    exact ⟨_, _, _, rfl, rfl, rfl, he⟩
  | rest =>
    obtain ⟨data, left, e, e', hdrain, hdrain', he⟩ := Intake.agrees_drain hdesk i.account i.body
    simp only [reply, Intake.rest, hdrain, hdrain']
    exact ⟨_, _, _, rfl, rfl, rfl, he⟩
  | outlook => exact ⟨_, _, _, rfl, rfl, rfl, hdesk⟩
  | context => exact hq.elim
  | accesses c =>
    obtain ⟨slot, hslot, rfl⟩ := hdesk
    exact ⟨_, _, _, rfl, rfl, rfl, slot, hslot, rfl⟩
  | digest c => exact Exchange.agrees_atDesk (hdesk.takeDigest c c.head.fields) i
  | admitted => exact Exchange.agrees_atDesk (hdesk.admitted _ _ _) i
  | mustBe a partner =>
    rw [reply, reply]
    rcases a.mustBe partner with f | u
    · exact ⟨_, _, _, rfl, rfl, rfl, hdesk.noteFault f⟩
    · exact ⟨_, _, _, rfl, rfl, rfl, hdesk⟩
  | install c => exact Exchange.agrees_atDesk (hdesk.install c) i
  | close => exact ⟨_, _, _, rfl, rfl, rfl, hdesk.close⟩
  | apart q =>
    -- Outside of every scope the two exchanges are one.
    obtain ⟨slot, hslot, rfl⟩ := hdesk
    exact ⟨_, _, _, rfl, rfl, rfl, slot, hslot, rfl⟩

/-- **A blind program ends with the same result** in exchanges that agree, and they agree at its
end. -/
theorem Program.agrees_run {α : Type} {p : Program α} (hp : p.Asks Ask.IsBlind) (policy : Policy)
    (now : Int64) {e e' : Exchange} (h : e.Agrees e') :
    SameReply Exchange.Agrees (p.run policy now e) (p.run policy now e') := by
  induction p generalizing e e' with
  | done a => exact ⟨_, _, _, rfl, rfl, h⟩
  | ask q next ih =>
    obtain ⟨b, f, f', hreply, hreply', hf⟩ := Ask.agrees_reply hp.1 policy now h
    rw [run, run, hreply, hreply']
    exact ih b (hp.2 b) hf

/-! ### On arrival -/

/-- The contexts of requests whose fields agree differ in these fields only. -/
theorem Gate.contextOf_eq {head : Head} {fields : Fields} (h : AgreeOnCovered head.fields fields) :
    contextOf { head with fields := fields } = { contextOf head with head.fields := fields } := by
  rw [contextOf, contextOf, h.hasCredentials_eq]

/-- **Requests whose fields agree arrive alike.** -/
theorem Exchange.agrees_arrival {r : Request} {fields : Fields}
    (h : AgreeOnCovered r.fields fields) :
    (arrival r).Agrees (arrival ⟨{ r.toHead with fields := fields }, r.body⟩) := by
  rw [arrival, arrival, Gate.contextOf_eq h]
  exact ⟨rfl, _, .holding (Gate.contextOf r.toHead) fields h, rfl⟩

end Countersign.Serving
