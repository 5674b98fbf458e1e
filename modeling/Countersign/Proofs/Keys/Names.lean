import Countersign.Keys.Name
import Countersign.Proofs.Text.ByteOrder
import Countersign.Proofs.Text.Edges

/-!
# Names of keys, as text and in order

Which texts are read as the name of a key, and what kind of order names are in. A name that was
read is *proper* (`Countersign.KeyName.IsProper`): neither of its parts is empty or holds a point.
Proper names are exactly what the reader gives out, each for its own text and no other
(`Countersign.KeyName.ofText?_eq_some_iff`).

Any two names can be compared, and the order is that of the UTF-8 bytes, partner first
(`Countersign.KeyName.le_iff_isAtMost`).
-/

namespace Countersign.KeyName

/-! ### Proper names -/

/-- A name of two parts that are not empty and have no point in them. -/
structure IsProper (n : KeyName) : Prop where
  partner_ne_nil : n.partner ≠ []
  key_ne_nil : n.key ≠ []
  partner_free : '.' ∉ n.partner
  key_free : '.' ∉ n.key

/-- **What is read as a name** is the text of a proper name. -/
theorem ofText?_eq_some_iff {t : Text} {n : KeyName} :
    ofText? t = some n ↔ n.IsProper ∧ t = n.text := by
  constructor
  · intro h
    rw [ofText?] at h
    split at h
    next partner key hcut =>
      split_ifs at h with hparts
      obtain rfl := Option.some.inj h
      obtain ⟨c, hc, rfl, hfree⟩ := Text.eq_of_cut hcut
      obtain rfl := beq_iff_eq.mp hc
      refine ⟨⟨hparts.1, hparts.2.1, fun hmem => ?_, hparts.2.2⟩, rfl⟩
      exact absurd (hfree _ hmem) (by decide)
    · exact absurd h (by simp)
  · rintro ⟨hproper, rfl⟩
    have hcut : Text.cut (· == '.') n.text = some (n.partner, n.key) :=
      Text.cut_append _ (fun x hx => beq_false_of_ne fun he => hproper.partner_free (he ▸ hx))
        (beq_self_eq_true '.')
    rw [ofText?, hcut]
    exact if_pos ⟨hproper.partner_ne_nil, hproper.key_ne_nil, hproper.key_free⟩

theorem ofText?_eq_none_iff {t : Text} :
    ofText? t = none ↔ ∀ n : KeyName, n.IsProper → t ≠ n.text := by
  rw [Option.eq_none_iff_forall_ne_some]
  exact forall_congr' fun n => by rw [Ne, ofText?_eq_some_iff, not_and]

/-- The text of a proper name is that of no other name. -/
theorem eq_of_text_eq {n m : KeyName} (hm : m.IsProper) (h : n.text = m.text) : n = m := by
  -- There is one point in the text of `m`, and so none in the parts of `n`.
  have hcount : n.text.count '.' = m.text.count '.' := congrArg (List.count '.') h
  have hone : n.partner.count '.' = 0 ∧ n.key.count '.' = 0 := by
    simp only [text, List.count_append, List.count_cons_self,
      List.count_eq_zero_of_not_mem hm.partner_free,
      List.count_eq_zero_of_not_mem hm.key_free] at hcount
    omega
  obtain ⟨hpartner, hkey⟩ := Text.append_sep_inj (List.count_eq_zero.mp hone.1) hm.partner_free h
  cases n
  cases m
  simp_all

/-! ### The order of names -/

/-- The order of the bytes of names, partner first, then key. -/
def IsAtMost (a b : KeyName) : Prop :=
  compare (Utf8.encode a.partner) (Utf8.encode b.partner) = .lt ∨
    a.partner = b.partner ∧ (compare (Utf8.encode a.key) (Utf8.encode b.key)).isLE

theorem le_refl (a : KeyName) : a.le a = true := by
  rw [le, Std.ReflOrd.compare_self, Std.ReflOrd.compare_self]
  rfl

theorem le_trans {a b c : KeyName} (hab : a.le b = true) (hbc : b.le c = true) :
    a.le c = true := by
  have htrans : Std.TransCmp (compareLex (compareOn partner) (compareOn key)) := inferInstance
  exact htrans.isLE_trans hab hbc

theorem le_of_not_le {a b : KeyName} (h : ¬a.le b = true) : b.le a = true := by
  have hswap : compareLex (compareOn partner) (compareOn key) b a =
      (compareLex (compareOn partner) (compareOn key) a b).swap := Std.OrientedCmp.eq_swap
  show (compareLex (compareOn partner) (compareOn key) b a).isLE = true
  rw [hswap]
  cases hab : compareLex (compareOn partner) (compareOn key) a b with
  | lt => exact absurd (congrArg Ordering.isLE hab) h
  | eq => rfl
  | gt => rfl

/-- **Names are in the order of their bytes.** -/
theorem le_iff_isAtMost {a b : KeyName} : a.le b = true ↔ a.IsAtMost b := by
  rw [le, Ordering.isLE_then_iff_or, IsAtMost, Utf8.compare_encode, Utf8.compare_encode,
    Std.LawfulEqOrd.compare_eq_iff_eq]

end Countersign.KeyName
