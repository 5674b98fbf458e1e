import Countersign.Hash.Sha256

/-!
# HMAC-SHA-256

The keyed hash of RFC 2104 over `Countersign.Sha256.hash`. A secret of any length
will do, the empty one included: a long one is hashed first and a short one is
filled up with zeros.
-/

namespace Countersign.Hmac

/-- The secret as exactly one block. -/
def blockKey (secret : Bytes) : Bytes :=
  let k := if 64 < secret.length then Sha256.hash secret else secret
  k ++ List.replicate (64 - k.length) 0

/-- The 32 bytes that authenticate a message under a secret. -/
def mac (secret message : Bytes) : Bytes :=
  let k := blockKey secret
  Sha256.hash (k.map (· ^^^ 0x5c) ++ Sha256.hash (k.map (· ^^^ 0x36) ++ message))

theorem length_mac (secret message : Bytes) : (mac secret message).length = 32 :=
  Sha256.length_hash _

end Countersign.Hmac
