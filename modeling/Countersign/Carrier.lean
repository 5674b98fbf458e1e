import Countersign.Credentials.Writer
import Countersign.Fault

/-!
# Credentials in header fields

A request carries its credentials in the field `Authorization`, a response in the
field `X-SignedResponse`. What is read must be visible ASCII; what is written need
only be a field value, so a name outside ASCII can be sent and will not be read.
-/

namespace Countersign

open Http

namespace Carrier

/-- The name of the field as fields have it. -/
def fieldName : Carrier → FieldName
  | authorization => ⟨"authorization".toList, by decide, by decide⟩
  | signedResponse => ⟨"x-signedresponse".toList, by decide, by decide⟩

/-- The values of the field. -/
def values (c : Carrier) (fields : Fields) : List FieldValue := fields.values c.name

/-- Read the credentials in a value of the field. -/
def read (c : Carrier) (v : FieldValue) : Except Fault Credentials :=
  match v.visible? with
  | none => .error (.notVisible c)
  | some t =>
    match Credentials.read t with
    | .ok a => .ok a
    | .error e => .error (.unreadable c e)

end Carrier

/-- The credentials of a request: those of its only `Authorization` field. -/
def Credentials.ofRequest (fields : Fields) : Except Fault Credentials :=
  match Carrier.authorization.values fields with
  | [] => .error .absent
  | [v] => Carrier.authorization.read v
  | _ => .error .repeated

end Countersign
