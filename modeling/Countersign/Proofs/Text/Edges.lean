import Countersign.Text.Cut
import Mathlib.Data.List.DropRight

/-!
# Where a text begins and ends

What `Countersign.Text.trim` and `Countersign.Text.cut` do to texts that are put
together from parts. A part that is not blank shields whatever stands on its other
side: trimming `s ++ t` at the end leaves `s` alone as soon as `t` is not blank
(`Countersign.Text.trimEnd_append`). What trimming leaves of a text is the one
trimmed text that it is with blanks around it (`Countersign.Text.trim_eq_iff`). And a
separator that occurs in neither of two parts determines both, whatever follows
(`Countersign.Text.append_cons_inj`): every statement that a written form is read
in one way only comes down to it.
-/

namespace Countersign.Text

/-! ### Blank texts -/

theorem trimEnd_eq_rdropWhile (t : Text) : trimEnd t = t.rdropWhile isBlank := rfl

theorem blank_nil : Blank [] := fun _ hc => absurd hc List.not_mem_nil

theorem not_blank_of_mem {c : Char} {t : Text} (hc : c ∈ t) (h : isBlank c = false) :
    ¬Blank t := by
  intro hb
  rw [hb c hc] at h
  exact absurd h (by decide)

theorem trimStart_eq_nil_iff {t : Text} : trimStart t = [] ↔ Blank t :=
  List.dropWhile_eq_nil_iff

theorem trimEnd_eq_nil_iff {t : Text} : trimEnd t = [] ↔ Blank t := by
  rw [trimEnd_eq_rdropWhile]
  exact List.rdropWhile_eq_nil_iff

/-! ### Trimming what is put together -/

/-- A part that is not blank shields what stands behind it. -/
theorem trimStart_append {s : Text} (t : Text) (h : ¬Blank s) :
    trimStart (s ++ t) = trimStart s ++ t := by
  have hne : (s.dropWhile isBlank).isEmpty = false := by
    rw [List.isEmpty_eq_false_iff]
    exact fun hc => h (trimStart_eq_nil_iff.mp hc)
  rw [trimStart, List.dropWhile_append, hne]
  rfl

/-- **A part that is not blank shields what stands in front of it.** -/
theorem trimEnd_append (s : Text) {t : Text} (h : ¬Blank t) :
    trimEnd (s ++ t) = s ++ trimEnd t := by
  have hr : ¬Blank t.reverse := fun hb => h fun c hc => hb c (List.mem_reverse.mpr hc)
  have hcut : (t.reverse ++ s.reverse).dropWhile isBlank =
      t.reverse.dropWhile isBlank ++ s.reverse := trimStart_append s.reverse hr
  rw [trimEnd, List.reverse_append, hcut, List.reverse_append, List.reverse_reverse, trimEnd]

theorem trimStart_cons_of_not_blank {c : Char} (t : Text) (h : isBlank c = false) :
    trimStart (c :: t) = c :: t := by
  simp [trimStart, h]

theorem trim_cons_of_blank {c : Char} (t : Text) (h : isBlank c = true) :
    trim (c :: t) = trim t := by
  simp [trim, trimStart, h]

/-- A text that begins with something other than a blank is trimmed at its end only. -/
theorem trim_cons_of_not_blank {c : Char} (t : Text) (h : isBlank c = false) :
    trim (c :: t) = trimEnd (c :: t) := by
  rw [trim, trimStart_cons_of_not_blank t h]

@[simp] theorem trim_eq_nil_iff {t : Text} : trim t = [] ↔ Blank t := by
  rw [trim, trimEnd_eq_nil_iff]
  constructor
  · intro hb
    by_contra hc
    obtain ⟨x, hx, hxb⟩ : ∃ x ∈ trimStart t, isBlank x = false := by
      have hne : trimStart t ≠ [] := fun h => hc (trimStart_eq_nil_iff.mp h)
      exact ⟨_, List.head_mem hne, List.head_dropWhile_not isBlank hne⟩
    exact not_blank_of_mem hx hxb hb
  · intro hb
    rw [trimStart_eq_nil_iff.mpr hb]
    exact blank_nil

/-! ### Blanks at the two ends -/

@[simp] theorem blank_append {s t : Text} : Blank (s ++ t) ↔ Blank s ∧ Blank t := by
  simp [Blank, or_imp, forall_and]

theorem trimEnd_append_blank (t : Text) {s : Text} (h : Blank s) :
    trimEnd (t ++ s) = trimEnd t := by
  have hr : ∀ c ∈ s.reverse, isBlank c = true := fun c hc => h c (List.mem_reverse.mp hc)
  rw [trimEnd, List.reverse_append, List.dropWhile_append_of_pos hr, trimEnd]

theorem trim_blank_append {s : Text} (t : Text) (h : Blank s) : trim (s ++ t) = trim t := by
  rw [trim, trimStart, List.dropWhile_append_of_pos h, trim, trimStart]

theorem trim_append_blank (t : Text) {s : Text} (h : Blank s) : trim (t ++ s) = trim t := by
  by_cases ht : Blank t
  · rw [trim_eq_nil_iff.mpr (blank_append.mpr ⟨ht, h⟩), trim_eq_nil_iff.mpr ht]
  · rw [trim, trimStart_append s ht, trimEnd_append_blank _ h, trim]

/-- **What is trimmed off** are blanks, on both sides. -/
theorem exists_eq_trim (t : Text) :
    ∃ before after, t = before ++ trim t ++ after ∧ Blank before ∧ Blank after := by
  refine ⟨t.takeWhile isBlank, (trimStart t).rtakeWhile isBlank, ?_,
    fun c hc => List.mem_takeWhile_imp hc, fun c hc => List.mem_rtakeWhile_imp hc⟩
  rw [trim, trimEnd_eq_rdropWhile, List.append_assoc, List.rdropWhile_append_rtakeWhile, trimStart,
    List.takeWhile_append_dropWhile]

/-- A trimmed text does not begin with a blank. -/
theorem not_blank_of_trim_eq_cons {c : Char} {t r : Text} (h : trim t = c :: r) :
    isBlank c = false := by
  have hprefix : c :: r <+: trimStart t := h ▸ List.rdropWhile_prefix isBlank (trimStart t)
  obtain ⟨s, hs⟩ := hprefix
  have hne : t.dropWhile isBlank ≠ [] := fun hc => by
    rw [trimStart, hc] at hs
    simp at hs
  have hhead := List.head_dropWhile_not isBlank hne
  have hsame : t.dropWhile isBlank = c :: (r ++ s) := hs.symm
  simpa [hsame] using hhead

/-- A text with no blank at its end is trimmed there already. -/
theorem trimEnd_eq_self {t : Text} (h : ∀ c ∈ t, isBlank c = false) : trimEnd t = t := by
  rw [trimEnd_eq_rdropWhile, List.rdropWhile_eq_self_iff]
  intro hne
  simp [h _ (List.getLast_mem hne)]

/-- The end of a trimmed text is trimmed. -/
@[simp] theorem trimEnd_trim (t : Text) : trimEnd (trim t) = trim t :=
  List.rdropWhile_idempotent isBlank (trimStart t)

/-- Trimming takes characters away and adds none. -/
theorem trim_subset (t : Text) : trim t ⊆ t := by
  intro c hc
  have hstart : c ∈ trimStart t := (List.rdropWhile_prefix isBlank (trimStart t)).subset hc
  exact (List.dropWhile_suffix isBlank).subset hstart

/-! ### Blanks around a text -/

/-- A text that neither begins nor ends with a blank. -/
structure IsTrimmed (t : Text) : Prop where
  first : ∀ c ∈ t.head?, isBlank c = false
  last : ∀ c ∈ t.getLast?, isBlank c = false

/-- The first text is the second with blanks around it. -/
def IsPadded (s t : Text) : Prop :=
  ∃ before after, s = before ++ t ++ after ∧ Blank before ∧ Blank after

theorem isTrimmed_iff {t : Text} : IsTrimmed t ↔ trim t = t := by
  constructor
  · intro h
    cases t with
    | nil => rfl
    | cons c r =>
      rw [trim_cons_of_not_blank r (h.first c rfl), trimEnd_eq_rdropWhile,
        List.rdropWhile_eq_self_iff]
      intro hne
      simp [h.last _ (List.getLast?_eq_some_getLast hne)]
  · intro h
    have hend : trimEnd t = t := by rw [← h, trimEnd_trim]
    refine ⟨fun c hc => ?_, fun c hc => ?_⟩
    · obtain ⟨r, rfl⟩ := List.head?_eq_some_iff.mp hc
      exact not_blank_of_trim_eq_cons h
    · obtain ⟨s, rfl⟩ := List.getLast?_eq_some_iff.mp hc
      have hlast := List.rdropWhile_eq_self_iff.mp hend (by simp)
      simpa using hlast

instance (t : Text) : Decidable (IsTrimmed t) := decidable_of_iff (trim t = t) isTrimmed_iff.symm

theorem isTrimmed_trim (t : Text) : IsTrimmed (trim t) := by
  rw [isTrimmed_iff]
  cases h : trim t with
  | nil => rfl
  | cons c r => rw [trim_cons_of_not_blank r (not_blank_of_trim_eq_cons h), ← h, trimEnd_trim]

theorem IsTrimmed.append {s t : Text} (hs : IsTrimmed s) (ht : IsTrimmed t) :
    IsTrimmed (s ++ t) := by
  refine ⟨fun c hc => ?_, fun c hc => ?_⟩
  · rw [List.head?_append] at hc
    rcases Option.or_eq_some_iff.mp hc with hfirst | ⟨-, hfirst⟩
    · exact hs.first c hfirst
    · exact ht.first c hfirst
  · rw [List.getLast?_append] at hc
    rcases Option.or_eq_some_iff.mp hc with hlast | ⟨-, hlast⟩
    · exact ht.last c hlast
    · exact hs.last c hlast

/-- **What trimming leaves** is what is there without the blanks around it. -/
theorem trim_eq_iff {s t : Text} : trim s = t ↔ IsTrimmed t ∧ IsPadded s t := by
  constructor
  · rintro rfl
    exact ⟨isTrimmed_trim s, exists_eq_trim s⟩
  · rintro ⟨htrimmed, before, after, rfl, hbefore, hafter⟩
    rw [trim_append_blank _ hafter, trim_blank_append _ hbefore, isTrimmed_iff.mp htrimmed]

/-- Blanks around a text bring nothing with them that is no blank. -/
theorem IsPadded.forall_eq_false {p : Char → Bool} {s t : Text} (h : IsPadded s t)
    (hp : ∀ c, p c = true → isBlank c = false) (ht : ∀ c ∈ t, p c = false) :
    ∀ c ∈ s, p c = false := by
  have hblank {r : Text} (hr : Blank r) : ∀ c ∈ r, p c = false := fun c hc =>
    Bool.eq_false_iff.mpr fun h => absurd (hr c hc) (by simp [hp c h])
  obtain ⟨before, after, rfl, hbefore, hafter⟩ := h
  simp only [List.mem_append, or_imp, forall_and]
  exact ⟨⟨hblank hbefore, ht⟩, hblank hafter⟩

/-- Something other than a blank divides a text into a part that is trimmed in front and one that
is trimmed behind. -/
theorem trim_append_cons (s t : Text) {c : Char} (h : isBlank c = false) :
    trim (s ++ c :: t) = trimStart s ++ c :: trimEnd t := by
  have hend : trimEnd (c :: t) = c :: trimEnd t := by
    by_cases ht : Blank t
    · rw [trimEnd_eq_nil_iff.mpr ht, ← trimEnd_eq_self (t := [c]) (by simpa using h)]
      exact trimEnd_append_blank [c] ht
    · exact trimEnd_append [c] ht
  have hc : ¬Blank (c :: t) := not_blank_of_mem List.mem_cons_self h
  by_cases hs : Blank s
  · rw [trim_blank_append _ hs, trim_cons_of_not_blank _ h, hend, trimStart_eq_nil_iff.mpr hs,
      List.nil_append]
  · rw [trim, trimStart_append _ hs, trimEnd_append _ hc, hend]

@[simp] theorem trim_trimStart (t : Text) : trim (trimStart t) = trim t := by
  rw [trim, trimStart, trimStart, List.dropWhile_idempotent, trim, trimStart]

@[simp] theorem trim_trimEnd (t : Text) : trim (trimEnd t) = trim t := by
  have hsplit : trimEnd t ++ t.rtakeWhile isBlank = t := List.rdropWhile_append_rtakeWhile
  have hblank : Blank (t.rtakeWhile isBlank) := fun c hc => List.mem_rtakeWhile_imp hc
  rw [← trim_append_blank (trimEnd t) hblank, hsplit]

/-! ### Separators -/

/-- **A separator that is no blank** is found where it was, after trimming. -/
theorem cut_trim {p : Char → Bool} {front : Text} {c : Char} (back : Text)
    (hfront : ∀ x ∈ front, p x = false) (hc : p c = true) (hblank : isBlank c = false) :
    cut p (trim (front ++ c :: back)) = some (trimStart front, trimEnd back) := by
  rw [trim_append_cons front back hblank]
  exact cut_append _ (fun x hx => hfront x ((List.dropWhile_suffix isBlank).subset hx)) hc

/-- **A separator determines what stands in front of it and what follows it**: of two
texts cut at their first character with a property, neither part can differ. -/
theorem append_cons_inj {p : Char → Bool} {a a' b b' : Text} {c c' : Char}
    (ha : ∀ x ∈ a, p x = false) (ha' : ∀ x ∈ a', p x = false) (hc : p c = true)
    (hc' : p c' = true) (h : a ++ c :: b = a' ++ c' :: b') : a = a' ∧ c = c' ∧ b = b' := by
  have hcut : some (a, b) = some (a', b') := by
    rw [← cut_append b ha hc, h, cut_append b' ha' hc']
  obtain ⟨rfl, rfl⟩ : a = a' ∧ b = b' := by simpa using hcut
  have hcons := List.append_cancel_left h
  exact ⟨rfl, (List.cons.inj hcons).1, rfl⟩

/-- The separator as a character: it occurs in neither part. -/
theorem append_sep_inj {s : Char} {a a' b b' : Text} (ha : s ∉ a) (ha' : s ∉ a')
    (h : a ++ s :: b = a' ++ s :: b') : a = a' ∧ b = b' := by
  have hfree : ∀ {t : Text}, s ∉ t → ∀ x ∈ t, (x == s) = false := fun hs x hx =>
    beq_false_of_ne fun he => hs (he ▸ hx)
  obtain ⟨haa, -, hbb⟩ := append_cons_inj (p := (· == s)) (hfree ha) (hfree ha')
    (beq_self_eq_true s) (beq_self_eq_true s) h
  exact ⟨haa, hbb⟩

/-- No piece holds the separator that a text was cut at. -/
theorem not_mem_of_mem_splitOn {s : Char} {t piece : Text} (h : piece ∈ t.splitOn s) :
    s ∉ piece := by
  induction t generalizing piece with
  | nil => simp_all
  | cons c r ih =>
    rw [List.splitOn_cons_eq_if_modifyHead] at h
    obtain ⟨first, others, hsplit⟩ := List.exists_cons_of_ne_nil (List.splitOn_ne_nil s r)
    rw [hsplit] at ih h
    split at h
    · rcases List.mem_cons.mp h with rfl | hrest
      · simp
      · exact ih hrest
    · next hcs =>
      rw [List.modifyHead_cons] at h
      rcases List.mem_cons.mp h with rfl | hrest
      · have hfirst : s ∉ first := ih List.mem_cons_self
        exact List.not_mem_cons_of_ne_of_not_mem (fun he => hcs (by simp [he])) hfirst
      · exact ih (List.mem_cons_of_mem _ hrest)

/-- Every piece is a part of what is put together. -/
theorem subset_join {sep piece : Text} {pieces : List Text} (h : piece ∈ pieces) :
    piece ⊆ join sep pieces := by
  intro x hx
  induction pieces with
  | nil => exact absurd h List.not_mem_nil
  | cons first others ih =>
    rcases List.mem_cons.mp h with rfl | hrest
    · cases others <;> simp [join, hx]
    · obtain ⟨second, more, rfl⟩ := List.exists_cons_of_ne_nil (List.ne_nil_of_mem hrest)
      rw [join, List.intercalate_cons_cons]
      exact List.mem_append_right _ (ih hrest)

/-- Every piece of a text that was cut is a part of it. -/
theorem subset_of_mem_splitOn {s : Char} {t piece : Text} (h : piece ∈ t.splitOn s) :
    piece ⊆ t := by
  have hjoin : join [s] (t.splitOn s) = t := List.intercalate_splitOn s
  exact fun x hx => hjoin ▸ subset_join h hx

end Countersign.Text
