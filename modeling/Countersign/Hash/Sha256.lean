import Countersign.Text.Blank

/-!
# SHA-256

The hash of FIPS 180-4, fed byte by byte. A `Countersign.Sha256.Hasher` holds the
chaining value and the bytes of the unfinished block, so feeding it is a fold
over the bytes; that it does not matter how the bytes are portioned
(`Countersign.Sha256.Hasher.update_append`) is a fact about folds.
-/

namespace Countersign.Sha256

/-! ### Words and rounds -/

/-- Rotate a word to the right. -/
def rotate (x n : UInt32) : UInt32 := (x >>> n) ||| (x <<< (32 - n))

/-- The eight words a message is chained through. -/
structure Chain where
  a : UInt32
  b : UInt32
  c : UInt32
  d : UInt32
  e : UInt32
  f : UInt32
  g : UInt32
  h : UInt32

/-- The chaining value before the first block: the square roots of the first eight primes. -/
def Chain.start : Chain :=
  ⟨0x6a09e667, 0xbb67ae85, 0x3c6ef372, 0xa54ff53a, 0x510e527f, 0x9b05688c, 0x1f83d9ab, 0x5be0cd19⟩

/-- Word by word sum. -/
def Chain.add (x y : Chain) : Chain :=
  ⟨x.a + y.a, x.b + y.b, x.c + y.c, x.d + y.d, x.e + y.e, x.f + y.f, x.g + y.g, x.h + y.h⟩

/-- The constants of the 64 rounds: the cube roots of the first 64 primes. -/
def roundConstants : List UInt32 :=
  [0x428a2f98, 0x71374491, 0xb5c0fbcf, 0xe9b5dba5, 0x3956c25b, 0x59f111f1, 0x923f82a4, 0xab1c5ed5,
   0xd807aa98, 0x12835b01, 0x243185be, 0x550c7dc3, 0x72be5d74, 0x80deb1fe, 0x9bdc06a7, 0xc19bf174,
   0xe49b69c1, 0xefbe4786, 0x0fc19dc6, 0x240ca1cc, 0x2de92c6f, 0x4a7484aa, 0x5cb0a9dc, 0x76f988da,
   0x983e5152, 0xa831c66d, 0xb00327c8, 0xbf597fc7, 0xc6e00bf3, 0xd5a79147, 0x06ca6351, 0x14292967,
   0x27b70a85, 0x2e1b2138, 0x4d2c6dfc, 0x53380d13, 0x650a7354, 0x766a0abb, 0x81c2c92e, 0x92722c85,
   0xa2bfe8a1, 0xa81a664b, 0xc24b8b70, 0xc76c51a3, 0xd192e819, 0xd6990624, 0xf40e3585, 0x106aa070,
   0x19a4c116, 0x1e376c08, 0x2748774c, 0x34b0bcb5, 0x391c0cb3, 0x4ed8aa4a, 0x5b9cca4f, 0x682e6ff3,
   0x748f82ee, 0x78a5636f, 0x84c87814, 0x8cc70208, 0x90befffa, 0xa4506ceb, 0xbef9a3f7, 0xc67178f2]

/-- One round, with its constant and its word of the schedule. -/
def Chain.round (s : Chain) (k w : UInt32) : Chain :=
  let spread := rotate s.e 6 ^^^ rotate s.e 11 ^^^ rotate s.e 25
  let choice := (s.e &&& s.f) ^^^ (~~~s.e &&& s.g)
  let t₁ := s.h + spread + choice + k + w
  let t₂ := (rotate s.a 2 ^^^ rotate s.a 13 ^^^ rotate s.a 22) +
    ((s.a &&& s.b) ^^^ (s.a &&& s.c) ^^^ (s.b &&& s.c))
  ⟨t₁ + t₂, s.a, s.b, s.c, s.d + t₁, s.e, s.f, s.g⟩

/-- The word that follows a window of sixteen words of the schedule. -/
def nextWord (window : List UInt32) : UInt32 :=
  let x := window.getD 1 0
  let y := window.getD 14 0
  window.getD 0 0 + (rotate x 7 ^^^ rotate x 18 ^^^ (x >>> 3)) + window.getD 9 0 +
    (rotate y 17 ^^^ rotate y 19 ^^^ (y >>> 10))

/-- The rounds of the given constants; the window slides over the schedule. -/
def rounds : List UInt32 → List UInt32 → Chain → Chain
  | [], _, s => s
  | k :: ks, window, s =>
    rounds ks (window.drop 1 ++ [nextWord window]) (s.round k (window.headD 0))

/-- The words of a byte string, the high byte of each first. -/
def words : Bytes → List UInt32
  | p :: q :: r :: s :: rest =>
    ((p.toUInt32 <<< 24) ||| (q.toUInt32 <<< 16) ||| (r.toUInt32 <<< 8) ||| s.toUInt32) ::
      words rest
  | _ => []

/-- The bytes of a word, the high byte first. -/
def wordBytes (w : UInt32) : Bytes :=
  [(w >>> 24).toUInt8, (w >>> 16).toUInt8, (w >>> 8).toUInt8, w.toUInt8]

/-- Take one block of 64 bytes into the chaining value. -/
def compress (s : Chain) (block : Bytes) : Chain :=
  s.add (rounds roundConstants (words block) s)

/-- The 32 bytes of a chaining value. -/
def Chain.bytes (s : Chain) : Bytes :=
  [s.a, s.b, s.c, s.d, s.e, s.f, s.g, s.h].flatMap wordBytes

/-! ### Feeding -/

/-- A hash computation under way. -/
structure Hasher where
  /-- The chaining value after the blocks that are complete. -/
  chain : Chain
  /-- The bytes of the unfinished block, the latest first. -/
  held : Bytes
  /-- How many bytes have been fed. -/
  total : Nat

namespace Hasher

/-- A hasher that has been fed nothing. -/
def start : Hasher := ⟨Chain.start, [], 0⟩

/-- Feed one byte. -/
def push (h : Hasher) (x : UInt8) : Hasher :=
  if h.total % 64 = 63 then ⟨compress h.chain (x :: h.held).reverse, [], h.total + 1⟩
  else ⟨h.chain, x :: h.held, h.total + 1⟩

/-- Feed a byte string. -/
def update (h : Hasher) (data : Bytes) : Hasher := data.foldl push h

/-- What completes a message of `n` bytes: a one bit, zeros, and the number of bits in the
last eight bytes of a block. -/
def padding (n : Nat) : Bytes :=
  let zeros : Bytes := List.replicate ((119 - n % 64) % 64) 0
  let length : Bytes := [56, 48, 40, 32, 24, 16, 8, 0].map fun i => UInt8.ofNat ((8 * n) >>> i)
  0x80 :: zeros ++ length

/-- The hash of the bytes fed so far. -/
def finish (h : Hasher) : Bytes := (h.update (padding h.total)).chain.bytes

theorem update_append (h : Hasher) (a b : Bytes) : h.update (a ++ b) = (h.update a).update b := by
  simp [update]

end Hasher

/-- The SHA-256 hash of a byte string. -/
def hash (data : Bytes) : Bytes := (Hasher.start.update data).finish

theorem length_hash (data : Bytes) : (hash data).length = 32 := rfl

end Countersign.Sha256
