import Countersign.Proofs.Canonical.Coverage

/-!
# Fields that are declared several times

The lines under a signature do not say where the values of one declared name end and
those of the next begin, and the list of the names is not signed. A name that is declared
twice contributes the values of its field twice, and those are the lines of a field that
occurs twice and is declared once.

So the lines determine the values of a field up to how often its name is declared
(`Countersign.Canonical.replicate_signedValues_eq`): the lines of one name, taken out of
all lines, are its values, once for each time that the name is declared
(`Countersign.Canonical.map_value_filter_covered`). Where both sides declare a name
equally often, its values are the same
(`Countersign.Canonical.signedValues_eq_of_count_eq`), and if both have one list of names
then equal lines say just that, whatever the list repeats
(`Countersign.Canonical.covered_eq_iff`). A list may repeat a name in another case as well:
that is a name of its own, with the values of the same field, and the lines tell the two
spellings apart (`Countersign.Canonical.lines_determine_fields`).
-/

namespace Countersign.Canonical

open Http

/-- The values of a field as they are signed: in order, each trimmed. -/
def signedValues (fields : Fields) (name : Text) : List Text :=
  (fields.values name).map fun v => Text.trim v.text

theorem linesOf_eq (fields : Fields) (name : Text) :
    linesOf fields name = (signedValues fields name).map fun value => ⟨name, value⟩ := by
  rw [signedValues, List.map_map]
  rfl

theorem signedValues_ne_nil_iff {fields : Fields} {name : Text} :
    signedValues fields name ≠ [] ↔ fields.has name = true := by
  rw [Fields.has_iff, signedValues, Ne, List.map_eq_nil_iff]

/-- **The lines of one name** are the values of its field, once for each time that the name is
declared. -/
theorem map_value_filter_covered (fields : Fields) (names : List Text) (name : Text) :
    ((covered fields names).filter (·.name = name)).map Line.value =
      (List.replicate (names.count name) (signedValues fields name)).flatten := by
  induction names with
  | nil => rfl
  | cons n names ih =>
    rw [covered_cons, List.filter_append, List.map_append, ih, List.count_cons]
    by_cases hn : n = name
    · subst hn
      have hall : (linesOf fields n).filter (·.name = n) = linesOf fields n := by
        refine List.filter_eq_self.mpr fun l hl => ?_
        obtain ⟨v, -, rfl⟩ := List.mem_map.mp hl
        exact decide_eq_true rfl
      have hvalues : (linesOf fields n).map Line.value = signedValues fields n := by
        rw [linesOf, List.map_map]
        rfl
      rw [hall, hvalues, beq_self_eq_true, if_pos rfl, List.replicate_succ, List.flatten_cons]
    · have hnone : (linesOf fields n).filter (·.name = name) = [] := by
        refine List.filter_eq_nil_iff.mpr fun l hl => ?_
        obtain ⟨v, -, rfl⟩ := List.mem_map.mp hl
        simpa using hn
      rw [hnone, beq_false_of_ne hn]
      rfl

section Equal

variable {fields fields' : Fields} {names names' : List Text}
  (h : covered fields names = covered fields' names')

include h

/-- **Equal lines, equal values up to repetition**: the values of a field, once for each time that
its name is declared, are the same on both sides. -/
theorem replicate_signedValues_eq (name : Text) :
    (List.replicate (names.count name) (signedValues fields name)).flatten =
      (List.replicate (names'.count name) (signedValues fields' name)).flatten := by
  rw [← map_value_filter_covered, h, map_value_filter_covered]

/-- A name that one side declares, and that occurs there, is declared by the other side too. -/
theorem mem_of_covered_eq {name : Text} (hmem : name ∈ names) (hhas : fields.has name = true) :
    name ∈ names' := by
  obtain ⟨v, hv⟩ := List.exists_mem_of_ne_nil _ (signedValues_ne_nil_iff.mpr hhas)
  have hlines := replicate_signedValues_eq h name
  by_contra hnot
  rw [List.count_eq_zero.mpr hnot, List.replicate_zero, List.flatten_nil,
    List.flatten_eq_nil_iff] at hlines
  have hnil := hlines _ (List.mem_replicate.mpr ⟨(List.count_pos_iff.mpr hmem).ne', rfl⟩)
  exact absurd (hnil ▸ hv) List.not_mem_nil

/-- **A name that both sides declare equally often** has the same values on both. -/
theorem signedValues_eq_of_count_eq {name : Text} (hmem : name ∈ names)
    (hcount : names.count name = names'.count name) :
    signedValues fields name = signedValues fields' name := by
  have hlines := replicate_signedValues_eq h name
  obtain ⟨k, hk⟩ := Nat.exists_eq_succ_of_ne_zero (List.count_pos_iff.mpr hmem).ne'
  rw [← hcount, hk] at hlines
  -- Both sides consist of equally many blocks, so the blocks are equally long.
  have hlength : (signedValues fields name).length = (signedValues fields' name).length := by
    have hlengths := congrArg List.length hlines
    rw [List.length_flatten, List.length_flatten, List.map_replicate, List.map_replicate,
      List.sum_replicate_nat, List.sum_replicate_nat] at hlengths
    exact Nat.eq_of_mul_eq_mul_left k.succ_pos hlengths
  rw [List.replicate_succ, List.replicate_succ, List.flatten_cons, List.flatten_cons] at hlines
  exact List.append_inj_left hlines hlength

end Equal

/-- **With one list of names**, equal lines are equal values, name by name, whatever is repeated in
the list. -/
theorem covered_eq_iff {fields fields' : Fields} {names : List Text} :
    covered fields names = covered fields' names ↔
      ∀ n ∈ names, signedValues fields n = signedValues fields' n := by
  refine ⟨fun h n hn => signedValues_eq_of_count_eq h hn rfl, fun h => ?_⟩
  refine List.flatMap_congr fun n hn => ?_
  rw [linesOf_eq, linesOf_eq, h n hn]

theorem length_signedValues (fields : Fields) (name : Text) :
    (signedValues fields name).length = (fields.values name).length := List.length_map _

/-- **The lines of a response determine its signed fields.** Whatever names are listed – repeated,
in several spellings, or of fields that do not occur –, two responses have the same lines under the
list exactly if every listed name has the same trimmed values in both, in the same order and as many
of them. -/
theorem lines_determine_fields (names : List Text) (fields fields' : Fields) (body body' : Bytes) :
    (Response.of names fields body).lines = (Response.of names fields' body').lines ↔
      ∀ n ∈ names, signedValues fields n = signedValues fields' n ∧
        (fields.values n).length = (fields'.values n).length := by
  show covered fields names = covered fields' names ↔ _
  rw [covered_eq_iff]
  refine ⟨fun h n hn => ⟨h n hn, ?_⟩, fun h n hn => (h n hn).1⟩
  rw [← length_signedValues, h n hn, length_signedValues]

end Countersign.Canonical
