import Countersign.Text.Blank

/-!
# Which numbers are in range

A number that is no natural number of 64 bits is kept in double precision, and one
that double precision has no room for is refused. Which ones these are depends on how
a numeral is rounded, and it is rounded three times:

* **the significand** takes digits only as long as it stays below 2^64
  (`Countersign.DoublePrecision.absorb`), and is then rounded;
* **the power of ten** is rounded on its own, and is at most 10^308;
* **their product** is rounded last.

So a numeral close to the limit may fall on the other side of it: 0.17976931348623158e309
is refused although it lies below the limit, and 1.79769313486231595e308 is
accepted although it lies above. A numeral whose power of ten is negative is never refused.

Everything here is exact arithmetic on natural numbers.
-/

namespace Countersign.DoublePrecision

/-! ### The significand -/

/-- Append decimal digits to a number as long as it stays below 2^64: the number, and the
digits from the first one that did not fit. -/
def absorb : Nat → Text → Nat × Text
  | n, [] => (n, [])
  | n, d :: ds =>
    let m := 10 * n + (d.toNat - '0'.toNat)
    if m < UInt64.size then absorb m ds else (n, d :: ds)

/-! ### Rounding -/

/-- The number nearest to `n` among those of at most 53 significant bits; of two such, the one
that is even in its last place. -/
def nearest (n : Nat) : Nat :=
  let unit := Nat.pow 2 (n.log2 - 52)
  let below := n / unit
  let rest := n % unit
  if unit < 2 * rest ∨ (unit = 2 * rest ∧ below % 2 = 1) then (below + 1) * unit else below * unit

/-- The least number that rounding takes to 2^1024: half a unit in the last place below it. -/
def limit : Nat := Nat.pow 2 1024 - Nat.pow 2 970

/-- Whether double precision has no room for a significand times a power of ten. -/
def overflows (significand : Nat) (exponent : Int) : Bool :=
  if significand = 0 ∨ exponent < 0 then false
  else if 308 < exponent then true
  else limit ≤ nearest significand * nearest (Nat.pow 10 exponent.toNat)

end Countersign.DoublePrecision
