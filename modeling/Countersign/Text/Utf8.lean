import Countersign.Text.Blank

/-!
# Texts as UTF-8 bytes

Writing is `Countersign.Utf8.encode`. Reading goes through
`Countersign.Utf8.pieces`, which divides *any* byte string into well-formed
characters and ill-formed stretches, each stretch as long as it can be while it
still begins some character (the practice Unicode recommends for replacement).
`Countersign.Utf8.decodeLossy` puts one U+FFFD for each such stretch, and
`Countersign.Utf8.decode?` refuses a byte string that has one.

The reader goes byte by byte with the unfinished character as its state, so it is
a plain recursion on the bytes.
-/

namespace Countersign.Utf8

/-- The UTF-8 bytes of a text. -/
def encode (t : Text) : Bytes := t.flatMap String.utf8EncodeChar

/-- A character of which the leading byte, and maybe more, has been read. -/
structure Unfinished where
  /-- The bits read so far. -/
  bits : Nat
  /-- How many bytes follow the next one. -/
  further : Nat
  /-- The least value the next byte can have. -/
  low : Nat
  /-- The greatest value the next byte can have. -/
  high : Nat

/-- What a byte at the beginning of a character is. -/
inductive Lead where
  /-- A whole character of one byte. -/
  | whole (c : Char)
  /-- The first byte of a longer one. -/
  | opens (u : Unfinished)
  /-- A byte no character begins with. -/
  | stray

/-- The role of a byte at the beginning of a character. The narrower bounds on the second
byte exclude overlong forms, surrogates and numbers beyond U+10FFFF. -/
def lead (b : UInt8) : Lead :=
  let n := b.toNat
  if n < 0x80 then .whole (Char.ofNat n)
  else if n < 0xC2 then .stray
  else if n < 0xE0 then .opens ⟨n - 0xC0, 0, 0x80, 0xBF⟩
  else if n = 0xE0 then .opens ⟨0, 1, 0xA0, 0xBF⟩
  else if n = 0xED then .opens ⟨0xD, 1, 0x80, 0x9F⟩
  else if n < 0xF0 then .opens ⟨n - 0xE0, 1, 0x80, 0xBF⟩
  else if n = 0xF0 then .opens ⟨0, 2, 0x90, 0xBF⟩
  else if n < 0xF4 then .opens ⟨n - 0xF0, 2, 0x80, 0xBF⟩
  else if n = 0xF4 then .opens ⟨4, 2, 0x80, 0x8F⟩
  else .stray

/-- The pieces of a byte string, given the unfinished character in front of it: a
character, or `none` for an ill-formed stretch. -/
def piecesFrom : Option Unfinished → Bytes → List (Option Char)
  | none, [] => []
  | some _, [] => [none]
  | none, b :: r =>
    match lead b with
    | .whole c => some c :: piecesFrom none r
    | .opens u => piecesFrom (some u) r
    | .stray => none :: piecesFrom none r
  | some u, b :: r =>
    if u.low ≤ b.toNat ∧ b.toNat ≤ u.high then
      let bits := u.bits * 64 + (b.toNat - 0x80)
      match u.further with
      | 0 => some (Char.ofNat bits) :: piecesFrom none r
      | k + 1 => piecesFrom (some ⟨bits, k, 0x80, 0xBF⟩) r
    else
      match lead b with
      | .whole c => none :: some c :: piecesFrom none r
      | .opens v => none :: piecesFrom (some v) r
      | .stray => none :: none :: piecesFrom none r

/-- The characters of a byte string, and `none` for each ill-formed stretch. -/
def pieces (b : Bytes) : List (Option Char) := piecesFrom none b

/-- The text of a byte string, U+FFFD standing for each ill-formed stretch. -/
def decodeLossy (b : Bytes) : Text := (pieces b).map fun p => p.getD '\uFFFD'

/-- The text of a well-formed byte string. -/
def decode? (b : Bytes) : Option Text := (pieces b).mapM id

end Countersign.Utf8
