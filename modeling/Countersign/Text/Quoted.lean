import Countersign.Text.Extending
import Countersign.Text.Ignorable
import Countersign.Text.Printable

/-!
# Quoted texts

The form in which a text is shown inside a description: between double quotes,
with a backslash before a quote or a backslash, the usual letters for tab, line
feed, carriage return and NUL, and `\u{…}` with the hexadecimal code point for
every other character that could not be made out where it stands: one that is not
printable, one that would be shown as a part of the character in front, and one that
shows nothing. Everything else stands for itself.
-/

namespace Countersign.Quoted

/-- One character inside the quotes. -/
def escape (c : Char) : Text :=
  if c = '"' then ['\\', '"']
  else if c = '\\' then ['\\', '\\']
  else if c = '\t' then ['\\', 't']
  else if c = '\n' then ['\\', 'n']
  else if c = '\r' then ['\\', 'r']
  else if c = '\x00' then ['\\', '0']
  else if Text.isExtending c || Text.isIgnorable c || !Text.isPrintable c then
    ['\\', 'u', '\x7b'] ++ Nat.toDigits 16 c.toNat ++ ['\x7d']
  else [c]

/-- A text between double quotes. -/
def encode (t : Text) : Text := '"' :: t.flatMap escape ++ ['"']

end Countersign.Quoted
