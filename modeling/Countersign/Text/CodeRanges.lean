import Countersign.Text.Blank

/-!
# Sets of characters, by ranges of code points

A property that Unicode gives to its characters is a set of code points, written as
the list of its ranges: first and last code point of each, in ascending order and
apart from one another, and a character has it if its code point is in one of them
(`Countersign.CodeRanges.holds`). The lists in `Countersign.Text.Printable`,
`Countersign.Text.Extending` and `Countersign.Text.Ignorable` are those of Unicode 17.0.
-/

namespace Countersign

/-- A set of code points: first and last code point of each of its ranges. -/
abbrev CodeRanges := List (Nat × Nat)

namespace CodeRanges

/-- Whether a character is in the set. -/
def holds (rs : CodeRanges) (c : Char) : Bool :=
  rs.any fun (first, last) => first ≤ c.toNat && c.toNat ≤ last

end CodeRanges

end Countersign
