import Countersign.Text.Blank

/-!
# Decimal numerals

A number is written with the fewest digits, `-` in front of a negative one. It is
read from one or more ASCII digits, leading zeros allowed, with `+` or – where
negative numbers exist – `-` in front; a numeral outside the 64-bit range is not
read at all.
-/

namespace Countersign.Decimal

/-- The shortest decimal numeral of an integer. -/
def ofInt : Int → Text
  | .ofNat n => Nat.toDigits 10 n
  | .negSucc n => '-' :: Nat.toDigits 10 (n + 1)

/-- The number that one or more ASCII digits denote. -/
def nat? (t : Text) : Option Nat :=
  if t ≠ [] ∧ t.all Char.isDigit then some (Nat.ofDigitChars 10 t 0) else none

/-- The integer that digits with an optional sign denote. -/
def int? : Text → Option Int
  | '+' :: r => (nat? r).map Int.ofNat
  | '-' :: r => (nat? r).map fun n => -(n : Int)
  | t => (nat? t).map Int.ofNat

/-- A numeral of a signed 64-bit number. -/
def int64? (t : Text) : Option Int64 :=
  (int? t).bind fun z =>
    if Int64.minValue.toInt ≤ z ∧ z ≤ Int64.maxValue.toInt then some (Int64.ofInt z) else none

/-- A numeral of an unsigned 64-bit number: no `-`, not even before zero. -/
def uint64? (t : Text) : Option UInt64 :=
  let digits := match t with
    | '+' :: r => r
    | t => t
  (nat? digits).bind fun n => if n < UInt64.size then some (UInt64.ofNat n) else none

end Countersign.Decimal
