import Countersign.Text.Cut
import Countersign.Text.Decimal

/-!
# Canonical messages

The part of a message that a signature covers, and the one text that stands for
it. A canonical request holds method, path and query, the covered header lines and
the digest of the body; a canonical response holds only the lines and the digest.

The text is a line for method and target – in a request –, a line for each covered
header field, and a last line with the digest, empty if there is none. What is
signed is that text followed by the decimal timestamp
(`Countersign.Canonical.Message.signedText`).
-/

namespace Countersign.Canonical

/-- A covered header field: its name as the signer declared it, and its trimmed value. -/
structure Line where
  name : Text
  value : Text
deriving DecidableEq

/-- The covered part of a request. -/
structure Request where
  method : Text
  path : Text
  /-- What follows the `?`; an empty query differs from none. -/
  query : Option Text
  lines : List Line
  /-- The digest of the body, absent if the body is empty. -/
  digest : Option Text
deriving DecidableEq

/-- The covered part of a response. -/
structure Response where
  lines : List Line
  digest : Option Text
deriving DecidableEq

/-- A message to be signed. -/
inductive Message where
  | request (r : Request)
  | response (r : Response)
deriving DecidableEq

/-- The text of a covered field, line feed included. -/
def Line.text (l : Line) : Text := l.name ++ ':' :: ' ' :: l.value ++ ['\n']

/-- The covered fields and the line of the digest. -/
def tailText (lines : List Line) (digest : Option Text) : Text :=
  lines.flatMap Line.text ++ digest.getD [] ++ ['\n']

/-- Method and target, line feed included. -/
def Request.startLine (r : Request) : Text :=
  r.method ++ ' ' :: r.path ++ (match r.query with
    | none => []
    | some q => '?' :: q) ++ ['\n']

/-- The canonical text of a request. -/
def Request.text (r : Request) : Text := r.startLine ++ tailText r.lines r.digest

/-- The canonical text of a response. -/
def Response.text (r : Response) : Text := tailText r.lines r.digest

namespace Message

/-- The canonical text of a message. -/
def text : Message → Text
  | request r => r.text
  | response r => r.text

/-- What is signed: the canonical text and the time of signing. -/
def signedText (m : Message) (time : Int64) : Text := m.text ++ Decimal.ofInt time.toInt

end Message

end Countersign.Canonical
