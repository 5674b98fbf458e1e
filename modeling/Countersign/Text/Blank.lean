/-!
# Texts and their blanks

A **text** is the list of its characters and a byte string the list of its bytes,
so that everything that reads or writes one is a recursion on a list.

A character is *blank* when Unicode gives it the property `White_Space`; the
table below is that property. `Countersign.Text.trim` removes the blanks at both
ends of a text and none inside it.
-/

namespace Countersign

/-- A text is the list of its characters. -/
abbrev Text := List Char

/-- A byte string is the list of its bytes. -/
abbrev Bytes := List UInt8

namespace Text

/-- The characters with the Unicode property `White_Space`. -/
def isBlank (c : Char) : Bool :=
  let n := c.toNat
  (0x9 ≤ n && n ≤ 0xD) || n == 0x20 || n == 0x85 || n == 0xA0 || n == 0x1680 ||
    (0x2000 ≤ n && n ≤ 0x200A) || n == 0x2028 || n == 0x2029 || n == 0x202F ||
    n == 0x205F || n == 0x3000

/-- The text without the blanks it begins with. -/
def trimStart (t : Text) : Text := t.dropWhile isBlank

/-- The text without the blanks it ends with. -/
def trimEnd (t : Text) : Text := (t.reverse.dropWhile isBlank).reverse

/-- The text without the blanks at its two ends. -/
def trim (t : Text) : Text := trimEnd (trimStart t)

/-- A text with no character other than blanks. -/
def Blank (t : Text) : Prop := ∀ c ∈ t, isBlank c = true

instance (t : Text) : Decidable (Blank t) := List.decidableBAll _ t

/-- ASCII letters in lower case, every other character as it is. -/
def lower (t : Text) : Text := t.map Char.toLower

end Text

end Countersign
