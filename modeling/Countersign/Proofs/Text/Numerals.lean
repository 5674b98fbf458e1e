import Countersign.Text.Decimal
import Countersign.Text.Hex
import Mathlib.Data.List.Basic

/-!
# Numerals can be read back

The two notations for numbers that stand under a signature: decimal times and
hexadecimal hashes. A time that is written is read back
(`Countersign.Decimal.int64?_ofInt`), so its text determines it; what else is read as a
number is said by `Countersign.Decimal.Denotes`, which knows nothing of the reader
(`Countersign.Decimal.int64?_eq_some_iff`). A byte string is
determined by its hexadecimal text (`Countersign.Hex.encode_injective`), which
consists of lower-case digits only.
-/

namespace Countersign

/-! ### Decimal times -/

namespace Decimal

/-- A text of digits, one at least. -/
def IsDigits (t : Text) : Prop := t ≠ [] ∧ ∀ c ∈ t, c.isDigit = true

theorem isDigits_toDigits (n : Nat) : IsDigits (Nat.toDigits 10 n) :=
  ⟨Nat.toDigits_ne_nil, fun _ hc => Nat.isDigit_of_mem_toDigits (by decide) (by decide) hc⟩

/-- The characters of a decimal numeral: digits, and a sign in front of them. -/
theorem mem_ofInt {z : Int} {c : Char} (hc : c ∈ ofInt z) : c.isDigit = true ∨ c = '-' := by
  cases z with
  | ofNat n => exact Or.inl ((isDigits_toDigits n).2 c hc)
  | negSucc n =>
    rcases List.mem_cons.mp hc with rfl | h
    · exact Or.inr rfl
    · exact Or.inl ((isDigits_toDigits (n + 1)).2 c h)

theorem nat?_eq_some_iff {t : Text} {n : Nat} :
    nat? t = some n ↔ IsDigits t ∧ n = Nat.ofDigitChars 10 t 0 := by
  rw [nat?, IsDigits]
  split
  next h =>
    refine ⟨fun hn => ⟨⟨h.1, List.all_eq_true.mp h.2⟩, (Option.some.inj hn).symm⟩, ?_⟩
    rintro ⟨-, rfl⟩
    rfl
  next h =>
    refine ⟨fun hc => absurd hc (by simp), ?_⟩
    rintro ⟨⟨hne, hdigits⟩, -⟩
    exact absurd ⟨hne, List.all_eq_true.mpr hdigits⟩ h

/-- What a numeral denotes: its digits do, with a sign in front of them or none. -/
inductive Denotes : Text → Int → Prop where
  | bare {digits : Text} (h : IsDigits digits) : Denotes digits (Nat.ofDigitChars 10 digits 0)
  | plus {digits : Text} (h : IsDigits digits) :
    Denotes ('+' :: digits) (Nat.ofDigitChars 10 digits 0)
  | minus {digits : Text} (h : IsDigits digits) :
    Denotes ('-' :: digits) (-(Nat.ofDigitChars 10 digits 0 : Int))

/-- A number is denoted by the numeral that is written for it. -/
theorem denotes_ofInt (z : Int) : Denotes (ofInt z) z := by
  cases z with
  | ofNat n =>
    have h := Denotes.bare (isDigits_toDigits n)
    rwa [Nat.ofDigitChars_ten_toDigits] at h
  | negSucc n =>
    have h := Denotes.minus (isDigits_toDigits (n + 1))
    rwa [Nat.ofDigitChars_ten_toDigits] at h

/-- **The numerals that are read** are those that denote a number, and no others. -/
theorem int?_eq_some_iff {t : Text} {z : Int} : int? t = some z ↔ Denotes t z := by
  constructor
  · intro h
    rw [int?.eq_def] at h
    split at h
    next r =>
      obtain ⟨n, hn, rfl⟩ := Option.map_eq_some_iff.mp h
      obtain ⟨hr, rfl⟩ := nat?_eq_some_iff.mp hn
      exact .plus hr
    next r =>
      obtain ⟨z, hz, rfl⟩ := Option.map_eq_some_iff.mp h
      obtain ⟨n, hn, hnz⟩ := Option.bind_eq_some_iff.mp hz
      obtain ⟨hr, rfl⟩ := nat?_eq_some_iff.mp hn
      obtain rfl := Option.some.inj hnz
      exact .minus hr
    next =>
      obtain ⟨n, hn, rfl⟩ := Option.map_eq_some_iff.mp h
      obtain ⟨ht, rfl⟩ := nat?_eq_some_iff.mp hn
      exact .bare ht
  · have hread : ∀ {t : Text}, IsDigits t → nat? t = some (Nat.ofDigitChars 10 t 0) := fun ht =>
      nat?_eq_some_iff.mpr ⟨ht, rfl⟩
    rintro (h | h | h)
    · -- A digit is no sign, so the reader takes the digits as they are.
      obtain ⟨c, r, rfl⟩ := List.exists_cons_of_ne_nil h.1
      have hc : c.isDigit = true := h.2 c List.mem_cons_self
      have hplus : c ≠ '+' := by rintro rfl; exact absurd hc (by decide)
      have hminus : c ≠ '-' := by rintro rfl; exact absurd hc (by decide)
      simp [int?, hplus, hminus, hread h]
    · simp [int?, hread h]
    · simp [int?, hread h]

/-- **The times that are read** are the numerals that denote a signed 64-bit number. -/
theorem int64?_eq_some_iff {v : Text} {t : Int64} : int64? v = some t ↔ Denotes v t.toInt := by
  rw [← int?_eq_some_iff, int64?, Option.bind_eq_some_iff]
  constructor
  · rintro ⟨z, hz, hin⟩
    split_ifs at hin with hrange
    obtain rfl := Option.some.inj hin
    rw [hz, Int64.toInt_ofInt_of_le hrange.1 (Int.lt_add_one_of_le hrange.2)]
  · intro h
    exact ⟨t.toInt, h, by rw [if_pos ⟨t.minValue_le_toInt, t.toInt_le⟩, Int64.ofInt_toInt]⟩

/-- **A time is read back as it was written**, the least one included. -/
theorem int64?_ofInt (t : Int64) : int64? (ofInt t.toInt) = some t :=
  int64?_eq_some_iff.mpr (denotes_ofInt t.toInt)

theorem ofInt_toInt_injective {t t' : Int64} (h : ofInt t.toInt = ofInt t'.toInt) : t = t' := by
  have hread := int64?_ofInt t
  rw [h, int64?_ofInt] at hread
  exact (Option.some.inj hread).symm

/-- A text that denotes a number of 64 bits with a sign. -/
def IsTime (v : Text) : Prop :=
  ∃ z, Denotes v z ∧ Int64.minValue.toInt ≤ z ∧ z ≤ Int64.maxValue.toInt

theorem isTime_iff {v : Text} : IsTime v ↔ ∃ t, int64? v = some t := by
  constructor
  · rintro ⟨z, hz, hlow, hhigh⟩
    rw [← Int64.toInt_ofInt_of_le hlow (Int.lt_add_one_of_le hhigh)] at hz
    exact ⟨_, int64?_eq_some_iff.mpr hz⟩
  · rintro ⟨t, ht⟩
    exact ⟨t.toInt, int64?_eq_some_iff.mp ht, t.minValue_le_toInt, t.toInt_le⟩

instance (v : Text) : Decidable (IsTime v) :=
  decidable_of_iff ((int64? v).isSome = true) (Option.isSome_iff_exists.trans isTime_iff.symm)

end Decimal

/-! ### Hexadecimal hashes -/

namespace Hex

/-- The lower-case hexadecimal digits. -/
def digits : Text := "0123456789abcdef".toList

theorem digitChar_mem_digits {n : Nat} (h : n < 16) : Nat.digitChar n ∈ digits :=
  (by decide : ∀ n : Fin 16, Nat.digitChar n ∈ digits) ⟨n, h⟩

theorem digitChar_inj {m n : Nat} (hm : m < 16) (hn : n < 16)
    (h : Nat.digitChar m = Nat.digitChar n) : m = n := by
  have hinj : ∀ a b : Fin 16, Nat.digitChar a = Nat.digitChar b → a = b := by decide
  exact congrArg Fin.val (hinj ⟨m, hm⟩ ⟨n, hn⟩ h)

theorem mem_digits_of_mem_encode {b : Bytes} {c : Char} (hc : c ∈ encode b) : c ∈ digits := by
  obtain ⟨x, -, hx⟩ := List.mem_flatMap.mp hc
  have hlt := x.toNat_lt
  rcases List.mem_pair.mp hx with rfl | rfl
  · exact digitChar_mem_digits (by omega)
  · exact digitChar_mem_digits (by omega)

/-- **A byte string is determined by its hexadecimal text.** -/
theorem encode_injective : Function.Injective encode := by
  intro a
  induction a with
  | nil =>
    intro b h
    cases b with
    | nil => rfl
    | cons y b => simp [encode] at h
  | cons x a ih =>
    intro b h
    cases b with
    | nil => simp [encode] at h
    | cons y b =>
      have hx := x.toNat_lt
      have hy := y.toNat_lt
      obtain ⟨hhigh, hlow, hrest⟩ : Nat.digitChar (x.toNat / 16) = Nat.digitChar (y.toNat / 16) ∧
          Nat.digitChar (x.toNat % 16) = Nat.digitChar (y.toNat % 16) ∧ encode a = encode b := by
        simpa [encode] using h
      have hq := digitChar_inj (by omega) (by omega) hhigh
      have hr := digitChar_inj (by omega) (by omega) hlow
      rw [UInt8.toNat_inj.mp (by omega : x.toNat = y.toNat), ih hrest]

end Hex

end Countersign
