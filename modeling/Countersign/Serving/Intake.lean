import Countersign.Serving.Desk

/-!
# The intake of a request

The body of a request as it is handed to an application. Reading it yields the
pieces of the body it came with, one by one and unchanged; where the body is
digested, the data of every piece is fed into an account on the way.
-/

namespace Countersign.Serving

open Http

/-- The body of a request, and the account in which it is digested. -/
structure Intake where
  body : Body
  account : Option Nat

namespace Intake

/-- Whether the body is digested. -/
def isDigesting (i : Intake) : Bool := i.account.isSome

/-- Whether nothing is left to read. -/
def atEnd (i : Intake) : Bool := i.body.atEnd

/-- The exact number of data bytes that are left. -/
def size (i : Intake) : Nat := i.body.size

/-- Feed what a piece holds into the account. -/
def record (account : Option Nat) (p : Piece) (d : Desk) : Desk :=
  match p, account with
  | .data b, some n => d.feed n b
  | _, _ => d

/-- Ask for a piece. -/
def poll (i : Intake) (d : Desk) : Poll × Intake × Desk :=
  match i.body.poll with
  | (.ready (some p), rest) => (.ready (some p), { i with body := rest }, record i.account p d)
  | (answer, rest) => (answer, { i with body := rest }, d)

/-- Wait for a piece; `none` at the end. -/
def next (i : Intake) (d : Desk) : Option Piece × Intake × Desk :=
  match i.body.next with
  | (some p, rest) => (some p, { i with body := rest }, record i.account p d)
  | (none, rest) => (none, { i with body := rest }, d)

/-- Wait for every piece of a body up to its first failure. -/
def drain (account : Option Nat) : Body → Desk → Except Text Bytes × Body × Desk
  | [], d => (.ok [], [], d)
  | .pending :: r, d => drain account r d
  | .piece (.failure m) :: r, d => (.error m, r, d)
  | .piece p :: r, d =>
    let (b, r, d) := drain account r (record account p d)
    (b.map (p.bytes ++ ·), r, d)

/-- Read all data that is left, or up to the first failure. -/
def rest (i : Intake) (d : Desk) : Except Text Bytes × Intake × Desk :=
  let (b, r, d) := drain i.account i.body d
  (b, { i with body := r }, d)

end Intake

end Countersign.Serving
