import Countersign.Canonical.Coverage
import Countersign.Carrier
import Countersign.Serving.Admission

/-!
# The desk

What a server has in hand while requests are served. A **context** says what is
known of a request; the **slot** holds the context of the request in hand, if there
is one. Slots belong to scopes: inside a scope the slot starts empty, and outside of
every scope – in a task of its own, say – there is none.

Contexts and the accounts in which bodies are digested are shared, so they are told
apart by numbers. The desk counts how often each context was given out, keeps the
accounts, and collects what is to be logged, in order.

Opening hands out a guard, and giving the guard back is `Countersign.Serving.Desk.close`:
it empties the slot of the scope it is given back in, whatever that holds.
-/

namespace Countersign.Serving

open Http Digest

universe u

/-- What is known of a request that is being served. -/
structure Context where
  /-- Which context this is; two contexts can be about the same request. -/
  number : Nat
  head : Head
  /-- The account in which the body is digested, if it is. -/
  account : Option Nat

/-- The place of the context of the request in hand. -/
inductive Slot where
  /-- There is no place for a context. -/
  | outside
  /-- There is no context. -/
  | vacant
  | holding (c : Context)

/-- What a server has in hand. -/
structure Desk where
  slot : Slot
  /-- How often each context was given out. -/
  accesses : Nat → Nat
  /-- The accounts in which bodies are digested. -/
  accounts : Nat → Tally
  /-- What is to be logged. -/
  log : List Event

/-- The credentials of a request and the message they are for. -/
structure Presented where
  credentials : Credentials
  request : Canonical.Request
deriving DecidableEq

namespace Desk

/-- A desk outside of every scope, at which nothing has happened. -/
def start : Desk := ⟨.outside, fun _ => 0, fun _ => .untouched, []⟩

/-- Log an event. -/
def note (d : Desk) (e : Event) : Desk := { d with log := d.log ++ [e] }

/-- Log what there is to log about a fault. -/
def noteFault (d : Desk) (f : Fault) : Desk := { d with log := d.log ++ f.event?.toList }

/-! ### The slot -/

/-- Put a context into the slot. -/
def install (d : Desk) (c : Context) : Except Fault Unit × Desk :=
  match d.slot with
  | .outside => (.error .openedOutsideScope, d)
  | .vacant => (.ok (), { d with slot := .holding c })
  | .holding _ => (.ok (), { d with slot := .holding c }.note .contextReplaced)

/-- Ask for the context of the request in hand. Every time it is given out counts. -/
def get (d : Desk) : Except Fault Context × Desk :=
  match d.slot with
  | .holding c =>
    (.ok c, { d with accesses := fun n =>
      if n = c.number then d.accesses n + 1 else d.accesses n })
  | _ => (.error .noContext, d)

/-- Empty the slot. -/
def close (d : Desk) : Desk :=
  match d.slot with
  | .outside => d.note .contextOutsideScope
  | .vacant => d.note .contextNotOpen
  | .holding _ => { d with slot := .vacant }

/-- Do something with another slot, and go back to the one before. -/
def within {α : Type u} (d : Desk) (slot : Slot) (act : Desk → α × Desk) : α × Desk :=
  let (a, after) := act { d with slot := slot }
  (a, { after with slot := d.slot })

/-- Do something in a scope of its own. -/
def inScope {α : Type u} (d : Desk) (act : Desk → α × Desk) : α × Desk := d.within .vacant act

/-! ### The accounts -/

/-- Change one account. -/
def setAccount (d : Desk) (n : Nat) (t : Tally) : Desk :=
  { d with accounts := fun m => if m = n then t else d.accounts m }

/-- Feed a portion of a body into an account. -/
def feed (d : Desk) (n : Nat) (data : Bytes) : Desk :=
  let before := d.accounts n
  let after := d.setAccount n (before.feed data)
  { after with log := after.log ++ (before.lateBytes? data).toList }

/-- Take the digest of the body of a request. -/
def takeDigest (d : Desk) (c : Context) : Except Fault (Option Text) × Desk :=
  match c.account with
  | none => (.error .notDigested, d)
  | some n => (.ok (d.accounts n).digest, d.setAccount n (d.accounts n).take)

/-! ### What is asked about the request in hand -/

/-- What the request in hand presents. The digest of its body is taken as soon as
there are credentials that can be read. -/
def presented (d : Desk) : Except Fault Presented × Desk :=
  match d.get with
  | (.error f, d) => (.error f, d)
  | (.ok c, d) =>
    match Credentials.ofRequest c.head.fields with
    | .error f => (.error f, d)
    | .ok a =>
      match d.takeDigest c with
      | (.error f, d) => (.error f, d)
      | (.ok digest, d) =>
        match Canonical.Request.received c.head a.signedNames digest with
        | .error f => (.error f, d)
        | .ok r => (.ok ⟨a, r⟩, d)

/-- Check the request in hand. -/
def admitted (d : Desk) (ring : KeyRing) (window : UInt64) (now : Int64) :
    Except Fault Admitted × Desk :=
  match d.presented with
  | (.error f, d) => (.error f, d)
  | (.ok i, d) =>
    match admission ring window now i.credentials i.request with
    | .error f => (.error f, d.noteFault f)
    | .ok a => (.ok a, d)

end Desk

end Countersign.Serving
