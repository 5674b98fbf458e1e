import Countersign.Credentials
import Countersign.Text.Decimal

/-!
# Writing credentials

The scheme, a space, and `name=value` for every parameter that is set, with a
comma and a space between each two. The covered field names form one parameter,
with semicolons between them.
-/

namespace Countersign.Credentials

/-- The value of a parameter, if it is set. An empty list of names counts as unset. -/
def value? (c : Credentials) : Param → Option Text
  | .partner => c.partner
  | .key => c.key
  | .signedNames => if c.signedNames = [] then none else some (Text.join [';'] c.signedNames)
  | .timestamp => c.timestamp.map fun t => Decimal.ofInt t.toInt
  | .signature => c.signature
  | .canonicalize => c.canonicalize.map fun b => (if b then "true" else "false").toList

/-- The parameters that are set, as they are written. -/
def assignments (c : Credentials) : List Text :=
  Param.all.filterMap fun p => (c.value? p).map fun v => p.name ++ '=' :: v

/-- The text of credentials. -/
def text (c : Credentials) : Text :=
  c.scheme.getD [] ++ match c.assignments with
    | [] => []
    | as => ' ' :: Text.join ", ".toList as

end Countersign.Credentials
