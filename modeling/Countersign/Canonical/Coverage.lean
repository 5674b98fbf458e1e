import Countersign.Canonical
import Countersign.Digest
import Countersign.Fault

/-!
# From messages to canonical messages

Which lines a list of declared field names covers, and the three ways to deal with
a name that does not occur. Each is a walk along the list.

* **A request that is about to be sent** takes the name off the list
  (`Countersign.Canonical.Request.outgoing`).
* **A request that has arrived** is refused for the first such name
  (`Countersign.Canonical.Request.received`).
* **A response** passes over it (`Countersign.Canonical.Response.of`).
-/

namespace Countersign.Canonical

open Http

/-- The lines of one declared name: its values in order, each trimmed. -/
def linesOf (fields : Fields) (name : Text) : List Line :=
  (fields.values name).map fun v => ⟨name, Text.trim v.text⟩

/-- The lines of all declared names in the order of declaration. -/
def covered (fields : Fields) (names : List Text) : List Line := names.flatMap (linesOf fields)

/-- The declared names that occur. -/
def occurring (fields : Fields) (names : List Text) : List Text := names.filter fields.has

/-- The lines of the declared names, and the names that are left when those without a line are
taken off the list. -/
def retained (fields : Fields) : List Text → List Line × List Text
  | [] => ([], [])
  | name :: rest =>
    let lines := linesOf fields name
    let (more, kept) := retained fields rest
    (lines ++ more, if lines.isEmpty then kept else name :: kept)

/-- The lines of the declared names, each of which has to have one. -/
def required (fields : Fields) : List Text → Except Fault (List Line)
  | [] => .ok []
  | name :: rest =>
    let lines := linesOf fields name
    if lines.isEmpty then .error (.coveredFieldAbsent name)
    else (required fields rest).map (lines ++ ·)

/-- The canonical form of a request with the given lines and digest. -/
def Request.withLines (head : Head) (lines : List Line) (digest : Option Text) : Request where
  method := head.method.text
  path := head.target.path
  query := head.target.query
  lines := lines
  digest := digest

/-- The canonical form of a request with the lines of the declared names. -/
def Request.of (head : Head) (names : List Text) (digest : Option Text) : Request :=
  .withLines head (covered head.fields names) digest

/-- The canonical form of a request that is about to be sent, and the names it covers. -/
def Request.outgoing (head : Head) (names : List Text) (body : Bytes) : Request × List Text :=
  let (lines, kept) := retained head.fields names
  (.withLines head lines (Digest.ofBytes body), kept)

/-- The canonical form of a request that has arrived. Every declared name has to occur. -/
def Request.received (head : Head) (names : List Text) (digest : Option Text) :
    Except Fault Request :=
  (required head.fields names).map fun lines => .withLines head lines digest

/-- The canonical form of a response. -/
def Response.of (names : List Text) (fields : Fields) (body : Bytes) : Response :=
  ⟨covered fields names, Digest.ofBytes body⟩

end Countersign.Canonical
