import Countersign.Credentials
import Countersign.Text.Decimal

/-!
# Reading credentials

The reader is lenient in what it passes over and strict in one thing only. The
scheme is everything up to the first blank; the rest is cut at commas. A piece
*counts* when the part in front of its first `=` is exactly the name of a
parameter and the part behind is not blank; every other piece is passed over. Of
several pieces that count for one parameter the last decides. The one thing that
is refused is a piece that counts as a timestamp and holds no 64-bit number.
-/

namespace Countersign

/-- Why a text cannot be read as credentials. -/
inductive Unreadable where
  /-- The text is blank. -/
  | empty
  /-- Nothing follows the scheme. -/
  | noParameters
  /-- A timestamp is not a 64-bit number. -/
  | badTimestamp (value : Text)
deriving DecidableEq

/-- The wording of a reading failure. -/
def Unreadable.detail : Unreadable → Text
  | empty => "cannot be empty".toList
  | noParameters => "format invalid".toList
  | badTimestamp value => "invalid timestamp, ".toList ++ value

namespace Credentials

/-- The parameter and the value a piece counts for. Blanks around the piece are not part of it. -/
def assignment? (piece : Text) : Option (Param × Text) :=
  (Text.cut (· == '=') (Text.trim piece)).bind fun (name, value) =>
    if Text.trim value = [] then none else (Param.ofName? name).map fun p => (p, value)

/-- Set one parameter. -/
def assign (c : Credentials) : Param × Text → Except Unreadable Credentials
  | (.partner, v) => .ok { c with partner := some v }
  | (.key, v) => .ok { c with key := some v }
  | (.signedNames, v) => .ok { c with signedNames := v.splitOn ';' }
  | (.timestamp, v) =>
    match Decimal.int64? v with
    | some t => .ok { c with timestamp := some t }
    | none => .error (.badTimestamp v)
  | (.signature, v) => .ok { c with signature := some v }
  | (.canonicalize, v) => .ok { c with canonicalize := some (Text.lower v = "true".toList) }

/-- Read credentials. -/
def read (t : Text) : Except Unreadable Credentials :=
  match Text.trim t with
  | [] => .error .empty
  | t =>
    match Text.cut Text.isBlank t with
    | none => .error .noParameters
    | some (scheme, rest) =>
      ((rest.splitOn ',').filterMap assignment?).foldlM assign { empty with scheme := some scheme }

end Credentials

end Countersign
