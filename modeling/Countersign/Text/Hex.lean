import Countersign.Text.Blank

/-!
# Hexadecimal text

Two lower-case digits for each byte, the high half first.
-/

namespace Countersign.Hex

/-- The lower-case hexadecimal text of a byte string. -/
def encode (b : Bytes) : Text :=
  b.flatMap fun x => [Nat.digitChar (x.toNat / 16), Nat.digitChar (x.toNat % 16)]

theorem length_encode (b : Bytes) : (encode b).length = 2 * b.length := by
  induction b with
  | nil => rfl
  | cons x b ih => simp only [encode, List.flatMap_cons, List.length_append] at ih ⊢
                   simp only [ih, List.length_cons, List.length_nil]
                   omega

end Countersign.Hex
