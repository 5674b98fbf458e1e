import Countersign.Text.Cut

/-!
# Writing JSON

Values are written without spaces and the members of an object in the order in
which they are given. In strings a quote, a backslash and the control characters
below U+0020 are escaped, and nothing else.
-/

namespace Countersign.Json

/-- A JSON value, as far as values are written here. -/
inductive Value where
  | string (t : Text)
  | number (n : Nat)
  | array (items : List Value)
  | object (members : List (Text × Value))

/-- One character inside a string. -/
def escape (c : Char) : Text :=
  if c = '"' then ['\\', '"']
  else if c = '\\' then ['\\', '\\']
  else if c = '\x08' then ['\\', 'b']
  else if c = '\x0c' then ['\\', 'f']
  else if c = '\n' then ['\\', 'n']
  else if c = '\r' then ['\\', 'r']
  else if c = '\t' then ['\\', 't']
  else if c.toNat < 0x20 then
    ['\\', 'u', '0', '0', Nat.digitChar (c.toNat / 16), Nat.digitChar (c.toNat % 16)]
  else [c]

/-- A string with its quotes. -/
def quoted (t : Text) : Text := '"' :: t.flatMap escape ++ ['"']

mutual

/-- The text of a value. -/
def Value.text : Value → Text
  | .string t => quoted t
  | .number n => Nat.toDigits 10 n
  | .array items => '[' :: Text.join [','] (itemTexts items) ++ [']']
  | .object members => '\x7b' :: Text.join [','] (memberTexts members) ++ ['\x7d']

/-- The texts of the items of an array. -/
def itemTexts : List Value → List Text
  | [] => []
  | v :: vs => v.text :: itemTexts vs

/-- The texts of the members of an object. -/
def memberTexts : List (Text × Value) → List Text
  | [] => []
  | (name, v) :: ms => (quoted name ++ ':' :: v.text) :: memberTexts ms

end

end Countersign.Json
