import Countersign.Serving.Intake

/-!
# Programs of applications

An application that answers a request is a **program**: a tree of questions, each
with a continuation for every reply (`Countersign.Serving.Program`). The questions
are all an application can do to its server (`Countersign.Serving.Ask`): read the
body, look at the request context, take the digest, check the request, and – if it
meddles – open or close the context itself. What it computes from the replies is its
own affair.

So a statement about *every* application is an induction on programs, and an
application that keeps its hands off the context is one whose questions are all of
the `Countersign.Serving.Ask.IsModest` kind (`Countersign.Serving.Program.Asks`).
-/

namespace Countersign.Serving

open Http

universe u v

/-- What an application can see of the body without reading it. -/
structure Outlook where
  isDigesting : Bool
  atEnd : Bool
  /-- How many data bytes are left. -/
  size : Nat
deriving DecidableEq

/-- A question to the server, with the type of its replies. -/
inductive Ask : Type → Type 1 where
  /-- The next piece of the body, or `none` at its end. -/
  | piece : Ask (Option Piece)
  /-- All data that is left, or the first failure on the way. -/
  | rest : Ask (Except Text Bytes)
  /-- What can be seen of the body. -/
  | outlook : Ask Outlook
  /-- The context of the request in hand. -/
  | context : Ask (Except Fault Context)
  /-- How often a context was given out. -/
  | accesses (c : Context) : Ask Nat
  /-- The digest of the body; from now on it stays as it is. -/
  | digest (c : Context) : Ask (Except Fault (Option Text))
  /-- Check the request in hand. -/
  | admitted : Ask (Except Fault Admitted)
  /-- Hold someone admitted to a partner's name. -/
  | mustBe (a : Admitted) (partner : Text) : Ask (Except Fault Unit)
  /-- Put a context into the slot. -/
  | install (c : Context) : Ask (Except Fault Unit)
  /-- Empty the slot. -/
  | close : Ask Unit
  /-- Ask from a task of its own, which is outside of every scope. -/
  | apart {β : Type} (q : Ask β) : Ask β

/-- A program whose result is an `α`. -/
inductive Program (α : Type u) : Type (max 1 u) where
  | done (a : α)
  | ask {β : Type} (q : Ask β) (next : β → Program α)

namespace Program

/-- Go on with another program. -/
def bind {α : Type u} {β : Type v} : Program α → (α → Program β) → Program β
  | done a, next => next a
  | ask q rest, next => ask q fun b => (rest b).bind next

instance : Monad Program where
  pure := done
  bind := bind

end Program

/-- The program that asks one question. -/
def Ask.once {β : Type} (q : Ask β) : Program β := .ask q .done

/-! ### Replies -/

/-- What a server checks requests with. -/
structure Policy where
  ring : KeyRing
  /-- How far the time of a signature may be from the clock, in seconds. -/
  window : UInt64

/-- A request in hand: the desk and what is left of the body. -/
structure Exchange where
  desk : Desk
  intake : Intake

namespace Exchange

/-- Do something at the desk. -/
def atDesk {β : Type} (e : Exchange) (act : Desk → β × Desk) : β × Exchange :=
  let (b, d) := act e.desk
  (b, { e with desk := d })

end Exchange

/-- The reply to a question, and what it changes. -/
def Ask.reply (policy : Policy) (now : Int64) : {β : Type} → Ask β → Exchange → β × Exchange
  | _, piece, e =>
    let (p, intake, desk) := e.intake.next e.desk
    (p, ⟨desk, intake⟩)
  | _, rest, e =>
    let (b, intake, desk) := e.intake.rest e.desk
    (b, ⟨desk, intake⟩)
  | _, outlook, e => (⟨e.intake.isDigesting, e.intake.atEnd, e.intake.size⟩, e)
  | _, context, e => e.atDesk Desk.get
  | _, accesses c, e => (e.desk.accesses c.number, e)
  | _, digest c, e => e.atDesk (·.takeDigest c)
  | _, admitted, e => e.atDesk (·.admitted policy.ring policy.window now)
  | _, mustBe a partner, e =>
    match a.mustBe partner with
    | .ok () => (.ok (), e)
    | .error f => (.error f, { e with desk := e.desk.noteFault f })
  | _, install c, e => e.atDesk (·.install c)
  | _, close, e => ((), { e with desk := e.desk.close })
  | _, apart q, e =>
    let (b, after) := q.reply policy now { e with desk.slot := .outside }
    (b, { after with desk.slot := e.desk.slot })

/-- Run a program. -/
def Program.run {α : Type u} (policy : Policy) (now : Int64) : Program α → Exchange → α × Exchange
  | done a, e => (a, e)
  | ask q next, e =>
    let (b, e) := q.reply policy now e
    (next b).run policy now e

theorem Program.run_pure {α : Type u} (policy : Policy) (now : Int64) (a : α) (e : Exchange) :
    (pure a : Program α).run policy now e = (a, e) := rfl

/-- A program that goes on with another one runs the one after the other. -/
theorem Program.run_bind {α β : Type u} (policy : Policy) (now : Int64) (p : Program α)
    (next : α → Program β) (e : Exchange) :
    (p >>= next).run policy now e =
      (next (p.run policy now e).1).run policy now (p.run policy now e).2 := by
  show (p.bind next).run policy now e = _
  induction p generalizing e with
  | done a => rfl
  | ask q rest ih => exact ih _ _

theorem Ask.run_once {β : Type} (policy : Policy) (now : Int64) (q : Ask β) (e : Exchange) :
    q.once.run policy now e = q.reply policy now e := rfl

/-! ### Modest programs -/

/-- Questions that leave the slot as it is. -/
def Ask.IsModest : {β : Type} → Ask β → Prop
  | _, install _ => False
  | _, close => False
  | _, apart q => q.IsModest
  | _, _ => True

/-- All questions a program can come to ask have a property. -/
def Program.Asks {α : Type u} (p : {β : Type} → Ask β → Prop) : Program α → Prop
  | done _ => True
  | ask q next => p q ∧ ∀ b, (next b).Asks p

end Countersign.Serving
