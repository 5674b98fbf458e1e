import Countersign.Event
import Countersign.Hash.Sha256
import Countersign.Text.Hex
import Countersign.Text.Quoted

/-!
# Digests of message bodies

The digest of a body is the hexadecimal SHA-256 hash of its bytes; an empty body
has none (`Countersign.Digest.ofBytes`).

A body that is still arriving is digested as it is read. `Countersign.Digest.Tally`
keeps the account: it is fed, and at some moment the digest is *taken*. The digest
taken is that of the bytes fed before; from then on it stays as it is, and bytes
that come too late are reported, because no signature covers them.

An account counts its bytes in a natural number. A counter of 64 bits shows the same as long as
fewer than 2^64 bytes are fed; longer bodies are not considered here.
-/

namespace Countersign.Digest

/-- The digest of a body. -/
def ofBytes (body : Bytes) : Option Text :=
  if body = [] then none else some (Hex.encode (Sha256.hash body))

/-- The account of a body that is being read. -/
inductive Tally where
  /-- Nothing has been fed, not even an empty portion. -/
  | untouched
  /-- Some portions have been fed, with the given number of bytes, below 2^64. -/
  | running (hasher : Sha256.Hasher) (size : Nat)
  /-- The digest has been taken. -/
  | taken (digest : Option Text)

namespace Tally

/-- Whether the digest has been taken. -/
def isTaken : Tally → Bool
  | taken _ => true
  | _ => false

/-- Feed a portion of the body. -/
def feed (data : Bytes) : Tally → Tally
  | untouched => running (Sha256.Hasher.start.update data) data.length
  | running h n => running (h.update data) (n + data.length)
  | taken d => taken d

/-- What is reported when a portion is fed. -/
def lateBytes? (data : Bytes) : Tally → Option Event
  | taken _ => if data = [] then none else some .lateBytes
  | _ => none

/-- The digest of what has been fed, or the one that was taken before. -/
def digest : Tally → Option Text
  | untouched => none
  | running h n => if n = 0 then none else some (Hex.encode h.finish)
  | taken d => d

/-- The account after its digest is taken. -/
def take (t : Tally) : Tally := taken t.digest

/-- The words for what has happened to an account. -/
def stateText : Tally → Text
  | untouched => "NotYetRead".toList
  | running _ n => "Pending(".toList ++ Nat.toDigits 10 n ++ " bytes)".toList
  | taken none => "Finalized(None)".toList
  | taken (some d) => "Finalized(Some(".toList ++ Quoted.encode d ++ "))".toList

/-- The description of an account. -/
def describe (t : Tally) : Text :=
  "EntityDigestAccumulator \x7b state: ".toList ++ Quoted.encode t.stateText ++ " \x7d".toList

end Tally

end Countersign.Digest
