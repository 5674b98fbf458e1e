import Countersign.Canonical.Coverage
import Countersign.Carrier
import Countersign.Signature

/-!
# Signing the response to a signed request

A response is signed in the name of the partner, and with the key, that the
request was signed with. Of the fields that are to be signed only those count that
the response has; their names make up the list in its credentials.
-/

namespace Countersign.Serving

open Http

/-- The credentials of the response to a request with the given credentials. -/
def countersign (ring : KeyRing) (now : Int64) (asked : Credentials) (names : List Text)
    (fields : Fields) (body : Bytes) : Except Fault Credentials :=
  let blank := { Credentials.empty with
    partner := asked.partner
    key := asked.key
    signedNames := Canonical.occurring fields names }
  match blank.sign ring now (.response (Canonical.Response.of blank.signedNames fields body)) with
  | (.ok (), signed) => .ok signed
  | (.error f, _) => .error f

end Countersign.Serving
