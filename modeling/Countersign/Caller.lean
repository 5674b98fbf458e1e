import Countersign.Canonical.Coverage
import Countersign.Carrier
import Countersign.Signature

/-!
# The calling side

A caller signs the requests it sends, in the name of a partner and with one of the
partner's keys, and checks the responses it gets. Of the fields a caller means to
sign, those that a request does not have are left out of its credentials.

The time a response was signed is not compared with any clock.
-/

namespace Countersign

open Http

/-- Someone who sends signed requests. -/
structure Caller where
  ring : KeyRing
  partner : Text
  key : Text
  /-- The names of the fields to sign. -/
  names : List Text

namespace Caller

/-- Sign a request: the credentials, or why there are none, and the fields afterwards. Where
signing fails the fields stay as they are. -/
def sign (c : Caller) (now : Int64) (head : Head) (body : Bytes) :
    Except Fault Credentials × Fields :=
  let (request, names) := Canonical.Request.outgoing head c.names body
  let blank := { Credentials.forKey c.partner c.key with signedNames := names }
  match blank.sign c.ring now (.request request) with
  | (.error f, _) => (.error f, head.fields)
  | (.ok (), signed) =>
    match FieldValue.ofText? signed.text with
    | none => (.error (.notSigned .notCarriable), head.fields)
    | some v => (.ok signed, head.fields.set Carrier.authorization.fieldName v)

end Caller

/-- Check the signature of a response: its credentials, or why they do not hold. -/
def KeyRing.checkResponse (ring : KeyRing) (status : Status) (fields : Fields) (body : Bytes) :
    Except Fault Credentials := do
  let [v] := Carrier.signedResponse.values fields
    | throw (.responseFieldCount status (Carrier.signedResponse.values fields).length)
  let c ← Carrier.signedResponse.read v
  if c.missing ≠ [] then throw (.responseIncomplete c.missing)
  c.check ring (.response (Canonical.Response.of c.signedNames fields body))
  return c

end Countersign
