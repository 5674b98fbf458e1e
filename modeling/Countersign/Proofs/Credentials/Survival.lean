import Countersign.Fault
import Countersign.Proofs.Credentials.RoundTrip

/-!
# Which credentials survive being written

Of all records of credentials, the ones that are read back as they were written are
those that satisfy a condition on each of their parts
(`Countersign.Credentials.Survives`) and have a parameter at all
(`Countersign.Credentials.HasParameter`) – and no others
(`Countersign.Credentials.read_text_eq_ok_iff`). The conditions look at the record
alone: a blank may stand in front of a value and inside it, but not at its end; a
covered name may be empty or blank, as long as the list as a whole is neither blank
nor ends in a blank.

Whatever has been read satisfies the conditions. So what was read can only fail to
survive by having no parameter, because nothing in the text counted; then the scheme is
written alone, and a scheme alone is refused.
-/

namespace Countersign.Credentials

/-- Credentials whose parts survive being written, each for itself. -/
structure Survives (c : Credentials) : Prop where
  scheme : ∃ s, c.scheme = some s ∧ s ≠ [] ∧ ∀ x ∈ s, Text.isBlank x = false
  value : ∀ v, c.partner = some v ∨ c.key = some v ∨ c.signature = some v → IsValue v
  names : c.signedNames = [] ∨
    (∀ n ∈ c.signedNames, ',' ∉ n ∧ ';' ∉ n) ∧ ¬Text.Blank (Text.join [';'] c.signedNames) ∧
      Text.trimEnd (Text.join [';'] c.signedNames) = Text.join [';'] c.signedNames

/-- Some parameter is set. -/
def HasParameter (c : Credentials) : Prop :=
  c.partner.isSome ∨ c.key.isSome ∨ c.signedNames ≠ [] ∨ c.timestamp.isSome ∨
    c.signature.isSome ∨ c.canonicalize.isSome

/-! ### The conditions on the parts -/

/-- Names joined by semicolons hold a comma exactly if one of them does. -/
theorem comma_mem_join_iff {names : List Text} :
    ',' ∈ Text.join [';'] names ↔ ∃ n ∈ names, ',' ∈ n := by
  induction names with
  | nil => simp [Text.join]
  | cons first others ih =>
    cases others with
    | nil => simp [Text.join]
    | cons second others =>
      rw [Text.join] at ih ⊢
      rw [List.intercalate_cons_cons, List.mem_append, List.mem_append, ih]
      simp

/-- **The conditions on the parts are those for being writable.** -/
theorem survives_iff_writable {c : Credentials} : c.Survives ↔ c.Writable := by
  have hjoined : c.signedNames ≠ [] →
      c.value? .signedNames = some (Text.join [';'] c.signedNames) := fun hne => if_neg hne
  constructor
  · intro h
    refine ⟨h.scheme, fun p v hp hv => ?_, fun n hn => ?_⟩
    · cases p with
      | partner => exact h.value v (Or.inl hv)
      | key => exact h.value v (Or.inr (Or.inl hv))
      | signature => exact h.value v (Or.inr (Or.inr hv))
      | signedNames =>
        rcases h.names with hnil | ⟨hfree, hblank, htrim⟩
        · simp [value?, hnil] at hv
        · have hne : c.signedNames ≠ [] := fun hnil => hblank (hnil ▸ Text.blank_nil)
          obtain rfl := Option.some.inj ((hjoined hne).symm.trans hv)
          refine ⟨fun hcomma => ?_, hblank, htrim⟩
          obtain ⟨n, hn, hmem⟩ := comma_mem_join_iff.mp hcomma
          exact (hfree n hn).1 hmem
      | timestamp => exact hp.elim
      | canonicalize => exact hp.elim
    · rcases h.names with hnil | ⟨hfree, -⟩
      · exact absurd (hnil ▸ hn) List.not_mem_nil
      · exact (hfree n hn).2
  · intro h
    refine ⟨h.scheme, ?_, ?_⟩
    · rintro v (hv | hv | hv)
      · exact h.value .partner v trivial hv
      · exact h.value .key v trivial hv
      · exact h.value .signature v trivial hv
    · by_cases hne : c.signedNames = []
      · exact Or.inl hne
      · have hvalue := h.value .signedNames _ trivial (hjoined hne)
        refine Or.inr ⟨fun n hn => ⟨fun hcomma => ?_, h.names n hn⟩, hvalue.not_blank,
          hvalue.trimmed⟩
        exact hvalue.no_comma (comma_mem_join_iff.mpr ⟨n, hn, hcomma⟩)

/-! ### A scheme alone -/

theorem hasParameter_iff {c : Credentials} : c.HasParameter ↔ c.assignments ≠ [] := by
  have hset : c.assignments = [] ↔ ∀ p, c.value? p = none := by
    have hall : ∀ p : Param, p ∈ Param.all := fun p => by cases p <;> decide
    simp [assignments, hall]
  rw [← not_iff_not, not_not, hset]
  constructor
  · intro h
    simp only [HasParameter, not_or, Option.not_isSome_iff_eq_none, not_not] at h
    obtain ⟨hpartner, hkey, hnames, htime, hsignature, hcanonicalize⟩ := h
    intro p
    cases p <;> simp [value?, hpartner, hkey, hnames, htime, hsignature, hcanonicalize]
  · rintro h (hp | hp | hp | hp | hp | hp)
    · rw [show c.partner = none from h .partner] at hp
      exact absurd hp (by decide)
    · rw [show c.key = none from h .key] at hp
      exact absurd hp (by decide)
    · exact absurd (h .signedNames) (by simp [value?, hp])
    · rw [Option.map_eq_none_iff.mp (h .timestamp)] at hp
      exact absurd hp (by decide)
    · rw [show c.signature = none from h .signature] at hp
      exact absurd hp (by decide)
    · rw [Option.map_eq_none_iff.mp (h .canonicalize)] at hp
      exact absurd hp (by decide)

/-- **Credentials without parameters are not read back**, whatever their scheme. -/
theorem read_text_of_not_hasParameter {c : Credentials} (h : c.Survives)
    (hnone : ¬c.HasParameter) : read c.text = .error .noParameters := by
  obtain ⟨s, hs, hne, hscheme⟩ := h.scheme
  have hassignments : c.assignments = [] := not_not.mp (mt hasParameter_iff.mpr hnone)
  have htext : c.text = s := by
    rw [text, hs, hassignments]
    exact List.append_nil s
  rw [htext]
  exact read_of_isWord ⟨[], s, [], by simp, Text.blank_nil, Text.blank_nil, hne, hscheme⟩

/-! ### What survives -/

/-- **What survives being written**: credentials are read back as they were written exactly if
each of their parts survives and there is a parameter. Parts that were read from a text
survive, so what was read comes back as it is, or, for lack of parameters, as a text that is
refused. -/
theorem read_text_eq_ok_iff (c : Credentials) :
    (read c.text = .ok c ↔ c.Survives ∧ c.HasParameter) ∧
      ∀ t, read t = .ok c → c.Survives ∧
        (c.HasParameter → read c.text = .ok c) ∧
        (¬c.HasParameter → ∃ e, read c.text = .error e ∧
          (Fault.malformed e).kind = .malformedHeader ∧ e.detail = "format invalid".toList) := by
  have hback : c.Survives → c.HasParameter → read c.text = .ok c := fun h hp =>
    read_text (survives_iff_writable.mp h) (hasParameter_iff.mp hp)
  have hread : ∀ t, read t = .ok c → c.Survives := fun t ht =>
    survives_iff_writable.mpr (writable_of_read ht).1
  refine ⟨⟨fun h => ⟨hread _ h, ?_⟩, fun h => hback h.1 h.2⟩,
    fun t ht => ⟨hread t ht, hback (hread t ht), fun hnone => ?_⟩⟩
  · -- What is refused is not read back.
    by_contra hnone
    rw [read_text_of_not_hasParameter (hread _ h) hnone] at h
    exact absurd h (by simp)
  · exact ⟨_, read_text_of_not_hasParameter (hread t ht) hnone, rfl, rfl⟩

/-- Blanks in front of a value and inside it, an equals sign and a tab, names that are empty or
blank, the least time, and no key; and a text in which nothing counts. -/
theorem read_text_eq_ok_iff_of_odd_parts :
    let c : Credentials := ⟨some "\u00e9=".toList, some "  b\t=".toList, none,
      [[], " ".toList, "A b".toList], some Int64.minValue, none, some false⟩
    let d : Credentials := { empty with scheme := some "X".toList }
    read c.text = .ok c ∧ read "X ,Key-id=1, key-id= ,partner-id".toList = .ok d ∧
      read d.text ≠ .ok d ∧ ∃ e, read d.text = .error e ∧ e.detail = "format invalid".toList := by
  intro c d
  have hread : read "X ,Key-id=1, key-id= ,partner-id".toList = .ok d := by decide
  have hnone : ¬d.HasParameter := by simp [d, HasParameter, empty]
  have hpartner : ∀ v, c.partner = some v ∨ c.key = some v ∨ c.signature = some v →
      IsValue v := by
    rintro v (hv | hv | hv)
    · obtain rfl := Option.some.inj hv
      exact ⟨by decide, by decide, by decide⟩
    · exact absurd hv (by simp [c])
    · exact absurd hv (by simp [c])
  obtain ⟨e, he, -, hdetail⟩ := ((read_text_eq_ok_iff d).2 _ hread).2.2 hnone
  refine ⟨(read_text_eq_ok_iff c).1.mpr ⟨⟨⟨_, rfl, by decide, ?_⟩, hpartner, Or.inr ?_⟩, ?_⟩, hread,
    fun h => hnone ((read_text_eq_ok_iff d).1.mp h).2, e, he, hdetail⟩
  · exact List.all_iff_forall_prop.mp (by decide)
  · exact ⟨by decide, by decide, by decide⟩
  · exact Or.inl rfl

end Countersign.Credentials
