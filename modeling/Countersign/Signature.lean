import Countersign.Canonical
import Countersign.Fault
import Countersign.Hash.Hmac
import Countersign.Keys.Ring
import Countersign.Text.Hex

/-!
# Signatures

A signature is the hexadecimal HMAC-SHA-256 of what a message signs, under the key
that the credentials name (`Countersign.Credentials.signature?`). Signing puts it
into the credentials, after filling in scheme and time where they are not set;
checking computes it again and compares.

The order of the checks is fixed – scheme, time, names of partner and key, the key
itself – and the first that fails is the fault reported.
-/

namespace Countersign

/-- The one scheme there is: the version of the format, and how a message is hashed. -/
def supportedScheme : Text := "2/HMAC_SHA256(H+SHA256(E))".toList

namespace KeyRing

/-- The hexadecimal HMAC-SHA-256 of a byte string under the key of a name. -/
def mac? (ring : KeyRing) (name : KeyName) (message : Bytes) : Option Text :=
  (ring.find? name).map fun secret => Hex.encode (Hmac.mac secret message)

/-- The wording where a key is asked for that does not exist. -/
def absentMessage (name : KeyName) : Text :=
  "no key found for partner-id=".toList ++ name.partner ++ ", key-id=".toList ++ name.key

end KeyRing

namespace Credentials

/-- The signature of a message by the key, the scheme and the time that credentials give. -/
def signature? (c : Credentials) (ring : KeyRing) (m : Canonical.Message) : Except Fault Text :=
  if c.scheme ≠ some supportedScheme then .error (.unknownScheme c.scheme)
  else
    match c.timestamp with
    | none => .error .timestampMissing
    | some time =>
      match c.partner, c.key with
      | some partner, some key =>
        match ring.mac? ⟨partner, key⟩ (Utf8.encode (m.signedText time)) with
        | some s => .ok s
        | none => .error (.keyUnknown ⟨partner, key⟩)
      | _, _ => .error .keyNotNamed

/-- Credentials with scheme and time filled in where they are not set. -/
def begun (c : Credentials) (now : Int64) : Credentials :=
  { c with
    scheme := c.scheme.or (some supportedScheme)
    timestamp := c.timestamp.or (some now) }

/-- Sign a message. Where that fails, scheme and time have been filled in all the same. -/
def sign (c : Credentials) (ring : KeyRing) (now : Int64) (m : Canonical.Message) :
    Except Fault Unit × Credentials :=
  match (c.begun now).signature? ring m with
  | .ok s => (.ok (), { c.begun now with signature := some s })
  | .error f => (.error (.notSigned f), c.begun now)

/-- Check the signature of a message. -/
def check (c : Credentials) (ring : KeyRing) (m : Canonical.Message) : Except Fault Unit :=
  match c.signature? ring m with
  | .error f => .error f
  | .ok s => if s = c.signature.getD [] then .ok () else .error .badSignature

end Credentials

end Countersign
