import Countersign.Http.Field
import Mathlib.Data.List.Basic

/-!
# Texts in header fields

What names and values of header fields can and cannot hold, in the direction a
signature needs.

* **Visible text** – printable ASCII, spaces, tabs – goes into a value and comes back
  as it is (`Countersign.Http.FieldValue.exists_visible?_eq`). It is all that
  credentials can be read from. More than that goes into a value, and for each
  character by itself (`Countersign.Http.FieldValue.exists_ofText?_eq_iff`).
* **Any value** is a text on one line once it is decoded
  (`Countersign.Http.FieldValue.newline_not_mem_text`): no byte of a value is a line
  feed, and decoding makes none, because the forms that would – a line feed spread over
  several bytes – are the overlong ones that decoding refuses.
* **A name that occurs** is a token, however its letters are written
  (`Countersign.Http.Fields.isToken_of_has`).
-/

namespace Countersign

/-! ### Decoding makes no line feed -/

namespace Utf8

/-- The character under way is beyond the line feed already: its bits, with the least that the
next byte can add. -/
def Unfinished.IsBeyond (u : Unfinished) : Prop := 0x80 ≤ u.low ∧ 10 < u.bits * 64 + (u.low - 0x80)

theorem isBeyond_of_lead {b : UInt8} {u : Unfinished} (h : lead b = .opens u) : u.IsBeyond := by
  simp only [lead] at h
  split_ifs at h
  all_goals
    obtain rfl := Lead.opens.inj h
    simp only [Unfinished.IsBeyond]
    omega

theorem eq_ten_of_ofNat {n : Nat} (h : Char.ofNat n = '\n') : n = 10 := by
  by_cases hn : n.isValidChar
  · rw [Char.ofNat, dif_pos hn] at h
    exact congrArg Char.toNat h
  · rw [Char.ofNat, dif_neg hn] at h
    exact absurd h (by decide)

theorem eq_ten_of_lead {b : UInt8} (h : lead b = .whole '\n') : b = 0x0A := by
  simp only [lead] at h
  split_ifs at h
  exact UInt8.toNat_inj.mp (eq_ten_of_ofNat (Lead.whole.inj h))

/-- The byte that follows keeps a character under way beyond the line feed. -/
theorem Unfinished.IsBeyond.lt_bits {u : Unfinished} {b : UInt8} (hu : u.IsBeyond)
    (hb : u.low ≤ b.toNat) : 10 < u.bits * 64 + (b.toNat - 0x80) := by
  have h := hu.2
  omega

/-- **A line feed is decoded from the byte of a line feed only.** The induction goes along the
bytes; a character under way never becomes one, because it is beyond it. -/
theorem newline_mem_of_mem_piecesFrom {s : Option Unfinished} {b : Bytes}
    (hs : ∀ u ∈ s, u.IsBeyond) (h : some '\n' ∈ piecesFrom s b) : 0x0A ∈ b := by
  have fresh : ∀ u ∈ (none : Option Unfinished), u.IsBeyond := fun u hu => by simp at hu
  fun_induction piecesFrom s b with
  | case1 => exact absurd h List.not_mem_nil
  | case2 u => simp at h
  | case3 b r c hlead ih =>
    rcases List.mem_cons.mp h with hc | hr
    · rw [← Option.some.inj hc] at hlead
      exact eq_ten_of_lead hlead ▸ List.mem_cons_self
    · exact List.mem_cons_of_mem _ (ih fresh hr)
  | case4 b r u hlead ih =>
    refine List.mem_cons_of_mem _ (ih (fun v hv => ?_) h)
    exact isBeyond_of_lead ((Option.some.inj hv) ▸ hlead)
  | case5 b r hlead ih =>
    exact List.mem_cons_of_mem _ (ih fresh (by simpa using h))
  | case6 u b r hb bits hfurther ih =>
    rcases List.mem_cons.mp h with hc | hr
    · have hten : bits = 10 := eq_ten_of_ofNat (Option.some.inj hc).symm
      have hbits : 10 < bits := (hs u rfl).lt_bits hb.1
      omega
    · exact List.mem_cons_of_mem _ (ih fresh hr)
  | case7 u b r hb bits k hfurther ih =>
    refine List.mem_cons_of_mem _ (ih (fun v hv => ?_) h)
    obtain rfl := Option.some.inj hv
    have hbits : 10 < bits := (hs u rfl).lt_bits hb.1
    exact ⟨Nat.le_refl _, by simp only; omega⟩
  | case8 u b r hb c hlead ih =>
    rcases List.mem_cons.mp (List.mem_of_ne_of_mem (by simp) h) with hc | hr
    · rw [← Option.some.inj hc] at hlead
      exact eq_ten_of_lead hlead ▸ List.mem_cons_self
    · exact List.mem_cons_of_mem _ (ih fresh hr)
  | case9 u b r hb v hlead ih =>
    refine List.mem_cons_of_mem _ (ih (fun w hw => ?_) (List.mem_of_ne_of_mem (by simp) h))
    exact isBeyond_of_lead ((Option.some.inj hw) ▸ hlead)
  | case10 u b r hb hlead ih =>
    exact List.mem_cons_of_mem _ (ih fresh (by simpa using h))

/-- **ASCII is decoded byte by byte.** -/
theorem decodeLossy_of_ascii {b : Bytes} (h : ∀ x ∈ b, x.toNat < 0x80) :
    decodeLossy b = b.map fun x => Char.ofNat x.toNat := by
  rw [decodeLossy, pieces]
  induction b with
  | nil => rfl
  | cons x r ih =>
    have hlead : lead x = .whole (Char.ofNat x.toNat) := if_pos (h x List.mem_cons_self)
    have hrest := ih fun y hy => h y (List.mem_cons_of_mem x hy)
    rw [piecesFrom, hlead]
    simp only [List.map_cons, hrest, Option.getD_some]

theorem newline_mem_of_mem_decodeLossy {b : Bytes} (h : '\n' ∈ decodeLossy b) : 0x0A ∈ b := by
  obtain ⟨p, hp, hc⟩ := List.mem_map.mp h
  cases p with
  | none => exact absurd hc (by decide)
  | some c =>
    obtain rfl : c = '\n' := hc
    exact newline_mem_of_mem_piecesFrom (fun u hu => by simp at hu) hp

end Utf8

/-! ### Values -/

namespace Http

/-- The characters that credentials can be read from: printable ASCII, space and tab. -/
def isVisible (c : Char) : Bool := (0x20 ≤ c.toNat && c.toNat < 0x7F) || c == '\t'

/-- The characters that fit into a value: all of their bytes do. -/
def isCarriable (c : Char) : Bool := (Utf8.encode [c]).all isValueByte

theorem isVisible_iff {c : Char} :
    isVisible c = true ↔ (0x20 ≤ c.toNat ∧ c.toNat < 0x7F) ∨ c.toNat = 9 := by
  have htab : c = '\t' ↔ c.toNat = 9 := by
    rw [← Char.toNat_inj]
    rfl
  simp [isVisible, htab]

theorem lt_of_isVisible {c : Char} (h : isVisible c = true) : c.toNat < 0x80 := by
  rcases isVisible_iff.mp h with hc | hc <;> omega

theorem toNat_ofNat_of_lt {n : Nat} (h : n < 0x80) : (Char.ofNat n).toNat = n := by
  rw [Char.ofNat, dif_pos (Or.inl (by omega))]
  rfl

/-- Visible text is written with one byte for each character. -/
theorem encode_of_isVisible {t : Text} (h : ∀ c ∈ t, isVisible c = true) :
    Utf8.encode t = t.map fun c => UInt8.ofNat c.toNat := by
  induction t with
  | nil => rfl
  | cons c t ih =>
    have hc : c.val.toNat ≤ 0x7F := by
      have hlt := lt_of_isVisible (h c List.mem_cons_self)
      exact Nat.le_of_lt_succ hlt
    have hrest := ih fun x hx => h x (List.mem_cons_of_mem _ hx)
    rw [Utf8.encode] at hrest ⊢
    rw [List.flatMap_cons, hrest, List.map_cons, String.utf8EncodeChar, if_pos hc]
    rfl

namespace FieldValue

/-- The bytes of a value that is visible. -/
theorem visible?_eq_some_iff {v : FieldValue} {t : Text} :
    v.visible? = some t ↔
      (∀ b ∈ v.bytes, (0x20 ≤ b.toNat ∧ b.toNat < 0x7F) ∨ b.toNat = 9) ∧
        t = v.bytes.map fun b => Char.ofNat b.toNat := by
  have hall : v.bytes.all (fun b => (0x20 ≤ b && b < 0x7F) || b == 0x09) = true ↔
      ∀ b ∈ v.bytes, (0x20 ≤ b.toNat ∧ b.toNat < 0x7F) ∨ b.toNat = 9 := by
    simp [UInt8.le_iff_toNat_le, UInt8.lt_iff_toNat_lt, ← UInt8.toNat_inj]
  rw [visible?, ← hall]
  split
  next h => exact ⟨fun ht => ⟨h, (Option.some.inj ht).symm⟩, fun ht => congrArg some ht.2.symm⟩
  next h => exact ⟨fun ht => absurd ht (by simp), fun ht => absurd ht.1 h⟩

/-- **Visible text fits into a value and is read from it as it was.** -/
theorem exists_visible?_eq {t : Text} (h : ∀ c ∈ t, isVisible c = true) :
    ∃ v, ofText? t = some v ∧ v.visible? = some t := by
  have hbyte : ∀ c ∈ t, (UInt8.ofNat c.toNat).toNat = c.toNat := fun c hc => by
    have hlt := lt_of_isVisible (h c hc)
    simp only [UInt8.toNat_ofNat']
    omega
  have hbytes : ∀ b ∈ Utf8.encode t, (0x20 ≤ b.toNat ∧ b.toNat < 0x7F) ∨ b.toNat = 9 := by
    rw [encode_of_isVisible h]
    intro b hb
    obtain ⟨c, hc, rfl⟩ := List.mem_map.mp hb
    rw [hbyte c hc]
    exact isVisible_iff.mp (h c hc)
  have hvalue : (Utf8.encode t).all isValueByte = true := by
    rw [List.all_eq_true]
    intro b hb
    have hb' := hbytes b hb
    simp [isValueByte, UInt8.le_iff_toNat_le, ← UInt8.toNat_inj]
    omega
  refine ⟨⟨Utf8.encode t, List.all_eq_true.mp hvalue⟩, ?_, visible?_eq_some_iff.mpr ⟨hbytes, ?_⟩⟩
  · rw [ofText?, ofBytes?, dif_pos hvalue]
  · simp only [encode_of_isVisible h, List.map_map]
    calc t = t.map id := (List.map_id t).symm
      _ = t.map _ := List.map_congr_left fun c hc => by
          simp only [Function.comp_apply, hbyte c hc, Char.ofNat_toNat, id_eq]

theorem isVisible_of_visible? {v : FieldValue} {t : Text} (h : v.visible? = some t) :
    ∀ c ∈ t, isVisible c = true := by
  obtain ⟨hbytes, rfl⟩ := visible?_eq_some_iff.mp h
  intro c hc
  obtain ⟨b, hb, rfl⟩ := List.mem_map.mp hc
  have hb' := hbytes b hb
  rwa [isVisible_iff, toNat_ofNat_of_lt (by omega)]

/-- What is visible in a value is its text. -/
theorem text_of_visible? {v : FieldValue} {t : Text} (h : v.visible? = some t) : v.text = t := by
  obtain ⟨hbytes, rfl⟩ := visible?_eq_some_iff.mp h
  exact Utf8.decodeLossy_of_ascii fun b hb => by
    have hb' := hbytes b hb
    omega

/-- **What fits into a value** is decided character by character. -/
theorem exists_ofText?_eq_iff {t : Text} :
    (∃ v, ofText? t = some v) ↔ ∀ c ∈ t, isCarriable c = true := by
  have hall : (Utf8.encode t).all isValueByte = true ↔ ∀ c ∈ t, isCarriable c = true := by
    simp [Utf8.encode, isCarriable]
  rw [← hall, ofText?, ofBytes?]
  split
  next h => exact iff_of_true ⟨_, rfl⟩ h
  next h => exact iff_of_false (by simp) h

theorem isCarriable_of_isVisible {c : Char} (h : isVisible c = true) : isCarriable c = true := by
  obtain ⟨v, hv, -⟩ := exists_visible?_eq (t := [c]) (by simpa using h)
  exact exists_ofText?_eq_iff.mp ⟨v, hv⟩ c List.mem_cons_self

/-- **A value is on one line**, also where it is not text in the first place. -/
theorem newline_not_mem_text (v : FieldValue) : '\n' ∉ v.text := fun h =>
  absurd (v.isValue _ (Utf8.newline_mem_of_mem_decodeLossy h)) (by decide)

end FieldValue

/-! ### Names -/

theorem isTokenChar_of_toLower {c : Char} (h : isTokenChar c.toLower = true) :
    isTokenChar c = true := by
  by_cases hu : c.isUpper = true
  · have hletter : c.isAlphanum = true := by
      show (c.isUpper || c.isLower || c.isDigit) = true
      rw [hu, Bool.true_or, Bool.true_or]
    rw [isTokenChar, hletter, Bool.true_or]
  · have hsame : c.toLower = c := dif_neg fun hc => hu (by
      show decide ('A'.val ≤ c.val ∧ c.val ≤ 'Z'.val) = true
      exact decide_eq_true hc)
    rwa [hsame] at h

theorem isToken_of_lower {t : Text} (h : IsToken (Text.lower t)) : IsToken t := by
  refine ⟨fun ht => h.1 (by rw [ht]; rfl), fun c hc => ?_⟩
  exact isTokenChar_of_toLower (h.2 _ (List.mem_map_of_mem hc))

namespace Fields

theorem mem_values_iff {fs : Fields} {name : Text} {v : FieldValue} :
    v ∈ fs.values name ↔ ∃ n, (n, v) ∈ fs ∧ n.text = Text.lower name := by
  simp [values]

theorem has_iff {fs : Fields} {name : Text} : fs.has name = true ↔ fs.values name ≠ [] := by
  simp [has]

/-- Names that differ in case only have the same values. -/
theorem values_eq_of_lower_eq (fs : Fields) {name name' : Text}
    (h : Text.lower name = Text.lower name') : fs.values name = fs.values name' := by
  rw [values, values, h]

/-- **A name that occurs is a token.** -/
theorem isToken_of_has {fs : Fields} {name : Text} (h : fs.has name = true) : IsToken name := by
  obtain ⟨v, hv⟩ := List.exists_mem_of_ne_nil _ (has_iff.mp h)
  obtain ⟨n, -, hn⟩ := mem_values_iff.mp hv
  exact isToken_of_lower (hn ▸ n.isToken)

/-- Of two values that a field is set to, the second remains. -/
@[simp] theorem set_set (fs : Fields) (name : FieldName) (v w : FieldValue) :
    (fs.set name v).set name w = fs.set name w := by
  simp [set, remove]

end Fields

end Http

end Countersign
