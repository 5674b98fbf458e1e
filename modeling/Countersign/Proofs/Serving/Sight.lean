import Countersign.Proofs.Serving.Reading

/-!
# What an application sees of its request

The gate stands between a request and an application, and feeds an account on the way. The
application does not notice. In every run of a program that leaves the context alone, from
the first question to the last moment (`Countersign.Serving.Program.Sees`),

* the context that was in the slot at the beginning is there, and is given out to whoever asks
  for it inside of the scope, and to nobody outside; if there was none, nobody gets one;
* what is asked about the body is answered as the body itself would answer: the pieces
  come in order and unchanged, nothing is left out, and nothing is added.

The first is what an application sees while it runs, the second case what the body of its
response sees that is read after the context was closed.

The predicate follows the run with the body as it came, on which every question leaves its
mark (`Countersign.Serving.Ask.leaves`), and never looks at the intake. That the two stay
together is what has to be shown (`Countersign.Serving.Ask.body_reply`).
-/

namespace Countersign

open Http

universe u

/-- What is left of a body that has been read to its end, or up to and with its first failure. -/
def Http.Body.afterFailure : Body → Body
  | [] => []
  | .piece (.failure _) :: r => r
  | _ :: r => afterFailure r

namespace Serving

/-! ### Replies and the body they are about -/

namespace Intake

/-- **Reading on is collecting**, with the data fed into an account on the way. -/
theorem drain_eq_collect (account : Option Nat) (b : Body) (d : Desk) :
    (drain account b d).1 = b.collect.map Prod.fst ∧
      (drain account b d).2.1 = b.afterFailure := by
  induction b generalizing d with
  | nil => exact ⟨rfl, rfl⟩
  | cons frame r ih =>
    cases frame with
    | pending => exact ih d
    | piece p =>
      cases p with
      | failure m => exact ⟨rfl, rfl⟩
      | data bytes =>
        obtain ⟨hdata, hleft⟩ := ih (record account (.data bytes) d)
        refine ⟨?_, hleft⟩
        show Except.map _ (drain account r _).1 = _
        rw [hdata, Body.collect]
        cases Body.collect r <;> rfl
      | trailers fields =>
        obtain ⟨hdata, hleft⟩ := ih (record account (.trailers fields) d)
        refine ⟨?_, hleft⟩
        show Except.map _ (drain account r _).1 = _
        rw [hdata, Body.collect]
        cases Body.collect r <;> rfl

end Intake

/-- What a question leaves of a body. -/
def Ask.leaves : {β : Type} → Ask β → Body → Body
  | _, piece, b => b.next.2
  | _, rest, b => b.afterFailure
  | _, apart q, b => q.leaves b
  | _, _, b => b

/-- A reply shows a body as it is, and the head of a request if its context is in the slot. -/
def Ask.Shows (head : Option Head) : {β : Type} → Ask β → Body → β → Prop
  | _, piece, b, p => p = b.next.1
  | _, rest, b, data => data = b.collect.map Prod.fst
  | _, outlook, b, o => o.atEnd = b.isEmpty ∧ o.size = b.bytes.length
  | _, context, _, c => c.toOption.map Context.head = head
  | _, apart q, b, x => q.Shows none b x
  | _, _, _, _ => True

/-- The head of the request whose context is in a slot. -/
def Slot.head? : Slot → Option Head
  | holding c => some c.head
  | _ => none

/-- **A question leaves of the intake what it leaves of the body.** -/
theorem Ask.body_reply {β : Type} (q : Ask β) (policy : Policy) (now : Int64) (e : Exchange) :
    (q.reply policy now e).2.intake.body = q.leaves e.intake.body := by
  induction q generalizing e with
  | piece =>
    show (e.intake.next e.desk).2.1.body = e.intake.body.next.2
    rw [Intake.next]
    rcases e.intake.body.next with ⟨p | p, r⟩
    · rfl
    · rfl
  | rest => exact (Intake.drain_eq_collect _ _ _).2
  | mustBe a partner =>
    rw [reply]
    cases a.mustBe partner with
    | ok u => rfl
    | error f => rfl
  | apart q ih => exact ih { e with desk.slot := .outside }
  | _ => rfl

/-- **A reply shows the body that is left**, and the head of the context in the slot. -/
theorem Ask.shows_reply {β : Type} (q : Ask β) (policy : Policy) (now : Int64) (e : Exchange) :
    q.Shows e.desk.slot.head? e.intake.body (q.reply policy now e).1 := by
  induction q generalizing e with
  | piece =>
    show (e.intake.next e.desk).1 = e.intake.body.next.1
    rw [Intake.next]
    rcases e.intake.body.next with ⟨p | p, r⟩
    · rfl
    · rfl
  | rest => exact (Intake.drain_eq_collect _ _ _).1
  | outlook => exact ⟨rfl, rfl⟩
  | context =>
    show e.desk.get.1.toOption.map Context.head = e.desk.slot.head?
    rw [Desk.get]
    cases e.desk.slot with
    | outside => rfl
    | vacant => rfl
    | holding c => rfl
  | apart q ih => exact ih { e with desk.slot := .outside }
  | _ => trivial

/-! ### Runs -/

/-- **What a program sees** of a request: at every question of the run the context in the slot has
the given head – or there is none, if none is given – and the reply shows this head and what
earlier questions have left of the body. So it is at the end. -/
def Program.Sees {α : Type u} (policy : Policy) (now : Int64) (head : Option Head) :
    Program α → Exchange → Body → Prop
  | done _, e, _ => e.desk.slot.head? = head
  | ask q next, e, b => e.desk.slot.head? = head ∧ q.Shows head b (q.reply policy now e).1 ∧
      (next (q.reply policy now e).1).Sees policy now head (q.reply policy now e).2 (q.leaves b)

/-- **Modest programs see the request** whose context is in the slot, and the body that the intake
came with. -/
theorem Program.sees_of_isModest {α : Type u} {p : Program α} (hp : p.Asks Ask.IsModest)
    (policy : Policy) (now : Int64) {head : Option Head} {e : Exchange}
    (h : e.desk.slot.head? = head) : p.Sees policy now head e e.intake.body := by
  induction p generalizing e with
  | done a => exact h
  | ask q next ih =>
    have hshows : q.Shows head e.intake.body (q.reply policy now e).1 :=
      h ▸ q.shows_reply policy now e
    have hnext : (q.reply policy now e).2.desk.slot.head? = head := by
      rw [Ask.slot_reply hp.1]
      exact h
    refine ⟨h, hshows, ?_⟩
    rw [← q.body_reply policy now e]
    exact ih _ (hp.2 _) hnext

end Serving

end Countersign
