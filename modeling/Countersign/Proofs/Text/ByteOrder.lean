import Countersign.Text.Utf8
import Mathlib.Tactic.SplitIfs

/-!
# The order of texts and of their bytes

Texts are ordered by their characters, from the first one on, and byte strings by their bytes.
UTF-8 is made so that the two orders agree (`Countersign.Utf8.compare_encode`): the first byte of
a character tells how many there are, and more bytes belong to greater characters; among
characters with as many bytes, these are the digits of the number of the character, the most
significant first. So where two texts part, the bytes of the two characters part already
(`Countersign.Utf8.compare_encodeChar_append`), and what follows has no say.
-/

namespace Countersign.Utf8

/-! ### Byte strings -/

theorem compare_cons {α : Type} [Ord α] (x y : α) (s t : List α) :
    compare (x :: s) (y :: t) = (compare x y).then (compare s t) := List.compareLex_cons_cons

theorem compare_append_left (p s t : Bytes) : compare (p ++ s) (p ++ t) = compare s t := by
  induction p with
  | nil => rfl
  | cons x p ih =>
    rw [List.cons_append, List.cons_append, compare_cons, Std.ReflOrd.compare_self]
    exact ih

/-- Numbers below 256 are compared as the bytes that they are. -/
theorem compare_ofNat {a b : Nat} (ha : a < 256) (hb : b < 256) :
    compare (UInt8.ofNat a) (UInt8.ofNat b) = compare a b := by
  have hlt : UInt8.ofNat a < UInt8.ofNat b ↔ a < b := by
    rw [UInt8.lt_iff_toNat_lt, UInt8.toNat_ofNat_of_lt' ha, UInt8.toNat_ofNat_of_lt' hb]
  have heq : UInt8.ofNat a = UInt8.ofNat b ↔ a = b := by
    rw [← UInt8.toNat_inj, UInt8.toNat_ofNat_of_lt' ha, UInt8.toNat_ofNat_of_lt' hb]
  show compareOfLessAndEq _ _ = compareOfLessAndEq _ _
  simp only [compareOfLessAndEq, hlt, heq]

/-! ### Characters -/

theorem encode_cons (c : Char) (t : Text) :
    encode (c :: t) = String.utf8EncodeChar c ++ encode t := List.flatMap_cons

theorem encodeChar_ne_nil (c : Char) : String.utf8EncodeChar c ≠ [] := by
  simp only [String.utf8EncodeChar]
  split_ifs <;> simp

/-- **The lesser character comes first** in bytes as well, whatever follows the two. -/
theorem compare_encodeChar_append {c d : Char} (h : c < d) (s t : Bytes) :
    compare (String.utf8EncodeChar c ++ s) (String.utf8EncodeChar d ++ t) = .lt := by
  have hlt : c.val.toNat < d.val.toNat := h
  have hd : d.val.toNat < 0x110000 := by
    have hvalid : d.val.toNat < 0xD800 ∨ 0xDFFF < d.val.toNat ∧ d.val.toNat < 0x110000 := d.valid
    omega
  have digits (v : Nat) : v / 4096 = v / 64 / 64 ∧ v / 262144 = v / 64 / 64 / 64 := by omega
  simp only [String.utf8EncodeChar, (digits _).1, (digits _).2]
  generalize c.val.toNat = v at hlt
  generalize d.val.toNat = w at hlt hd
  -- One case for each two lengths. Where they differ, the first bytes do; where they agree, the
  -- bytes are compared as the digits of the two numbers.
  split_ifs <;>
    simp (disch := omega) only [List.cons_append, List.nil_append, compare_cons, compare_ofNat,
      Ordering.then_eq_lt, Nat.compare_eq_lt, Nat.compare_eq_eq] <;>
    omega

/-! ### Texts -/

/-- **Texts are in the order of their bytes.** -/
theorem compare_encode (s t : Text) : compare (encode s) (encode t) = compare s t := by
  induction s generalizing t with
  | nil =>
    cases t with
    | nil => rfl
    | cons d t =>
      obtain ⟨x, r, hx⟩ := List.exists_cons_of_ne_nil (encodeChar_ne_nil d)
      rw [encode_cons, hx]
      rfl
  | cons c s ih =>
    cases t with
    | nil =>
      obtain ⟨x, r, hx⟩ := List.exists_cons_of_ne_nil (encodeChar_ne_nil c)
      rw [encode_cons, hx]
      rfl
    | cons d t =>
      rw [compare_cons, encode_cons, encode_cons]
      cases hcd : compare c d with
      | lt =>
        rw [compare_encodeChar_append (compareOfLessAndEq_eq_lt.mp hcd)]
        rfl
      | eq =>
        obtain rfl := Std.LawfulEqOrd.eq_of_compare hcd
        rw [compare_append_left, ih]
        rfl
      | gt =>
        have hdc : compare d c = .lt := Std.OrientedCmp.lt_of_gt hcd
        rw [Std.OrientedOrd.eq_swap, compare_encodeChar_append (compareOfLessAndEq_eq_lt.mp hdc)]
        rfl

end Countersign.Utf8
