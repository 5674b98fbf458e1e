import Countersign.Credentials.Writer
import Countersign.Proofs.Credentials.Grammar

/-!
# Credentials as text

Writing credentials and reading them back. Reading is lenient – it passes over what
it does not know – and trims in three places, so not every record survives:
`Countersign.Credentials.Writable` says which do. A scheme has no blank in it, a
free value has no comma, is not blank and does not *end* in one, and no covered name
has a semicolon. Blanks in front of a value survive: a piece is trimmed as a whole,
and its value stands behind the name of the parameter.

* **What is written is read back** (`Countersign.Credentials.read_text`), if there is
  any parameter at all.
* **What is read can be written**, and its free values are parts of the text it was read
  from (`Countersign.Credentials.writable_of_read`).

Both go by the grammar: the text that is written gives every parameter the value it has
(`Countersign.Credentials.given_assignments`), and what is read has the last values that it is
given (`Countersign.Credentials.value?_withLast`).
-/

namespace Countersign

/-- Parameters whose value is a text of the caller's choice, unlike a time or a flag. -/
def Param.IsFree : Param → Prop
  | .timestamp | .canonicalize => False
  | _ => True

namespace Credentials

/-- A value that survives being written as a parameter. -/
structure IsValue (v : Text) : Prop where
  no_comma : ',' ∉ v
  not_blank : ¬Text.Blank v
  trimmed : Text.trimEnd v = v

/-- Credentials that survive being written, if they have a parameter at all. -/
structure Writable (c : Credentials) : Prop where
  scheme : ∃ s, c.scheme = some s ∧ s ≠ [] ∧ ∀ x ∈ s, Text.isBlank x = false
  value : ∀ p v, p.IsFree → c.value? p = some v → IsValue v
  names : ∀ n ∈ c.signedNames, ';' ∉ n

/-! ### Values -/

theorem isValue_of_forall {v : Text} (hne : v ≠ [])
    (h : ∀ x ∈ v, Text.isBlank x = false ∧ x ≠ ',') : IsValue v where
  no_comma hmem := (h _ hmem).2 rfl
  not_blank hb := by
    obtain ⟨x, hx⟩ := List.exists_mem_of_ne_nil v hne
    exact Text.not_blank_of_mem hx (h x hx).1 hb
  trimmed := Text.trimEnd_eq_self fun x hx => (h x hx).1

theorem isValue_ofInt (z : Int) : IsValue (Decimal.ofInt z) := by
  have hdigit : ∀ x : Char, x.isDigit = true → Text.isBlank x = false ∧ x ≠ ',' := by
    intro x hx
    refine ⟨?_, by rintro rfl; exact absurd hx (by decide)⟩
    have hrange : 48 ≤ x.toNat ∧ x.toNat ≤ 57 := by
      simpa [Char.isDigit, UInt32.le_iff_toNat_le] using hx
    simp only [Text.isBlank]
    simp
    omega
  refine isValue_of_forall ?_ fun x hx => ?_
  · cases z with
    | ofNat n => exact Nat.toDigits_ne_nil
    | negSucc n => exact List.cons_ne_nil _ _
  · rcases Decimal.mem_ofInt hx with h | rfl
    · exact hdigit x h
    · decide

/-- The values of the other parameters are values as well, so all of them are. -/
theorem Writable.isValue {c : Credentials} (h : c.Writable) {p : Param} {v : Text}
    (hv : c.value? p = some v) : IsValue v := by
  cases p with
  | timestamp =>
    obtain ⟨t, -, rfl⟩ := Option.map_eq_some_iff.mp hv
    exact isValue_ofInt _
  | canonicalize =>
    obtain ⟨b, -, rfl⟩ := Option.map_eq_some_iff.mp hv
    cases b <;> exact isValue_of_forall (by decide) (List.all_iff_forall_prop.mp (by decide))
  | partner => exact h.value .partner v trivial hv
  | key => exact h.value .key v trivial hv
  | signedNames => exact h.value .signedNames v trivial hv
  | signature => exact h.value .signature v trivial hv

/-! ### One parameter -/

/-- The text of one parameter. -/
def assignmentText (p : Param) (v : Text) : Text := p.name ++ '=' :: v

theorem not_blank_assignmentText (p : Param) (v : Text) : ¬Text.Blank (assignmentText p v) :=
  Text.not_blank_of_mem (List.mem_append_right _ List.mem_cons_self) (by decide)

theorem trim_assignmentText (p : Param) {v : Text} (hv : IsValue v) :
    Text.trim (assignmentText p v) = assignmentText p v := by
  have hname : ¬Text.Blank p.name ∧ Text.trimStart p.name = p.name := by cases p <;> decide
  have hsplit : assignmentText p v = (p.name ++ ['=']) ++ v := by simp [assignmentText]
  rw [Text.trim, assignmentText, Text.trimStart_append _ hname.1, hname.2, ← assignmentText, hsplit,
    Text.trimEnd_append _ hv.not_blank, hv.trimmed]

theorem comma_not_mem_assignmentText (p : Param) {v : Text} (hv : IsValue v) :
    ',' ∉ assignmentText p v := by
  have hname : ',' ∉ p.name := by cases p <;> decide
  rw [assignmentText, List.mem_append, List.mem_cons]
  rintro (h | h | h)
  · exact hname h
  · exact absurd h (by decide)
  · exact hv.no_comma h

/-- **A parameter that is written is given its value**, and no other is. -/
theorem valueIn?_assignmentText (p q : Param) {v : Text} (hv : IsValue v) :
    p.valueIn? (Text.trim (assignmentText q v)) = if q = p then some v else none := by
  have hread : assignment? (assignmentText q v) = some (q, v) :=
    assignment?_eq_some_iff.mpr
      (Param.valueIn?_eq_some_iff.mpr ⟨trim_assignmentText q hv, hv.not_blank⟩)
  refine Option.ext fun w => ?_
  rw [← assignment?_eq_some_iff, hread]
  by_cases hqp : q = p
  · simp [hqp]
  · simp [hqp]

/-- A piece that counts holds a value, which is a part of it. -/
theorem isValue_of_valueIn? {piece : Text} {p : Param} {v : Text} (hcomma : ',' ∉ piece)
    (h : p.valueIn? (Text.trim piece) = some v) : IsValue v ∧ v ⊆ piece := by
  obtain ⟨htrim, hnot⟩ := Param.valueIn?_eq_some_iff.mp h
  have hsub : v ⊆ piece := fun x hx =>
    Text.trim_subset piece (htrim ▸ List.mem_append_right _ (List.mem_cons_of_mem _ hx))
  refine ⟨⟨fun hmem => hcomma (hsub hmem), hnot, ?_⟩, hsub⟩
  -- The piece was trimmed, so its last part ends in no blank either.
  have hend := Text.trimEnd_trim piece
  have hsplit : Text.trim piece = (p.name ++ ['=']) ++ v := by simp [htrim]
  rw [hsplit, Text.trimEnd_append _ hnot] at hend
  exact List.append_cancel_left hend

/-! ### All parameters -/

/-- **Pieces that were put together** give what each of them gives. -/
theorem given_join (p : Param) {as : List Text} (h : ∀ a ∈ as, ',' ∉ a) :
    given p (Text.join ", ".toList as) = as.filterMap fun a => p.valueIn? (Text.trim a) := by
  induction as with
  | nil => cases p <;> decide
  | cons first others ih =>
    have hfirst := given_of_not_mem p (h first List.mem_cons_self)
    have hothers := ih fun a ha => h a (List.mem_cons_of_mem _ ha)
    have hcons : (first :: others).filterMap (fun a => p.valueIn? (Text.trim a)) =
        (p.valueIn? (Text.trim first)).toList ++
          others.filterMap fun a => p.valueIn? (Text.trim a) := by
      cases hv : p.valueIn? (Text.trim first) <;> simp [hv]
    rw [hcons]
    cases others with
    | nil => simpa [Text.join] using hfirst
    | cons second others =>
      have hjoin : Text.join ", ".toList (first :: second :: others) =
          first ++ ',' :: ' ' :: Text.join ", ".toList (second :: others) := by
        simp [Text.join]
      rw [hjoin, given_append_comma, given_cons_blank p _ (by decide), hfirst, hothers]

/-- The parameters that are set, with their values. -/
def values (c : Credentials) : List (Param × Text) :=
  Param.all.filterMap fun p => (c.value? p).map fun v => (p, v)

theorem assignments_eq (c : Credentials) :
    c.assignments = c.values.map fun a => assignmentText a.1 a.2 := by
  rw [assignments, values, List.map_filterMap]
  simp only [Option.map_map]
  rfl

theorem mem_values_iff {c : Credentials} {p : Param} {v : Text} :
    (p, v) ∈ c.values ↔ c.value? p = some v := by
  have hall : p ∈ Param.all := by cases p <;> decide
  simp [values, hall]

/-- **The text of the parameters** gives each of them its value. -/
theorem given_assignments {c : Credentials} (h : c.Writable) (p : Param) :
    given p (Text.join ", ".toList c.assignments) = (c.value? p).toList := by
  have hcomma : ∀ a ∈ c.assignments, ',' ∉ a := by
    intro a ha
    rw [assignments_eq] at ha
    obtain ⟨⟨q, v⟩, hv, rfl⟩ := List.mem_map.mp ha
    exact comma_not_mem_assignmentText q (h.isValue (mem_values_iff.mp hv))
  have hvalue : ∀ q, ((c.value? q).map fun v => assignmentText q v).bind
      (fun a => p.valueIn? (Text.trim a)) = if q = p then c.value? p else none := by
    intro q
    cases hv : c.value? q with
    | none =>
      by_cases hqp : q = p
      · simp [← hqp, hv]
      · simp [hqp]
    | some v =>
      rw [Option.map_some, Option.bind_some, valueIn?_assignmentText p q (h.isValue hv)]
      by_cases hqp : q = p
      · simp [← hqp, hv]
      · simp [hqp]
  rw [given_join p hcomma, assignments, List.filterMap_filterMap]
  refine (List.filterMap_congr fun q _ => hvalue q).trans ?_
  cases hv : c.value? p with
  | none => simp
  | some v => cases p <;> simp [Param.all]

/-! ### What is written is read back -/

/-- What is put together from parts that are not blank is not blank. -/
theorem not_blank_join {as : List Text} (hne : as ≠ []) (h : ∀ a ∈ as, ¬Text.Blank a) :
    ¬Text.Blank (Text.join ", ".toList as) := by
  obtain ⟨first, others, rfl⟩ := List.exists_cons_of_ne_nil hne
  have hfirst := h first List.mem_cons_self
  cases others with
  | nil => simpa [Text.join] using hfirst
  | cons second others =>
    rw [Text.join, List.intercalate_cons_cons, List.append_assoc, Text.blank_append]
    exact fun hblank => hfirst hblank.1

/-- **The values of credentials settle into the credentials they are the values of.** -/
theorem settle_value? {c : Credentials} (h : c.Writable) :
    ({ empty with scheme := c.scheme } : Credentials).settle (fun p => (c.value? p).toList) =
      .ok c := by
  refine settle_eq_ok_iff.mpr ⟨fun v hv => ?_, ?_⟩
  · obtain ⟨t, -, rfl⟩ := Option.map_eq_some_iff.mp (Option.mem_toList.mp hv)
    exact Decimal.isTime_iff.mpr ⟨t, Decimal.int64?_ofInt t⟩
  · have hnames : lastOr [] (·.splitOn ';') (c.value? .signedNames).toList = c.signedNames := by
      by_cases hne : c.signedNames = []
      · simp [value?, hne]
      · simp [value?, hne, Text.join, List.splitOn_intercalate ';' h.names hne]
    have htime : lastOr none Decimal.int64? (c.value? .timestamp).toList = c.timestamp := by
      cases ht : c.timestamp <;> simp [value?, ht, Decimal.int64?_ofInt]
    have hflag : lastOr none (fun v => some (decide (Text.lower v = "true".toList)))
        (c.value? .canonicalize).toList = c.canonicalize := by
      cases hb : c.canonicalize with
      | none => simp [value?, hb]
      | some b => cases b <;> simp [value?, hb] <;> decide
    have hfree : ∀ v? : Option Text, lastOr none some v?.toList = v? := by
      rintro (_ | v) <;> rfl
    show c = ⟨c.scheme, lastOr none some c.partner.toList, lastOr none some c.key.toList,
      lastOr [] (·.splitOn ';') (c.value? .signedNames).toList,
      lastOr none Decimal.int64? (c.value? .timestamp).toList,
      lastOr none some c.signature.toList,
      lastOr none (fun v => some (decide (Text.lower v = "true".toList)))
        (c.value? .canonicalize).toList⟩
    rw [hnames, htime, hflag, hfree, hfree, hfree]

/-- **What is written is read back**, if there is any parameter. -/
theorem read_text {c : Credentials} (h : c.Writable) (hne : c.assignments ≠ []) :
    read c.text = .ok c := by
  obtain ⟨s, hs, hsne, hscheme⟩ := h.scheme
  have htext : c.text = s ++ ' ' :: Text.join ", ".toList c.assignments := by
    rw [text, hs]
    cases has : c.assignments with
    | nil => exact absurd has hne
    | cons a as => rfl
  have hblank : ∀ a ∈ c.assignments, ¬Text.Blank a := by
    intro a ha
    rw [assignments_eq] at ha
    obtain ⟨⟨p, v⟩, -, rfl⟩ := List.mem_map.mp ha
    exact not_blank_assignmentText p v
  have hparted : Text.IsParted c.text s (Text.join ", ".toList c.assignments) :=
    ⟨⟨[], ' ', htext, Text.blank_nil, by decide⟩, hsne, hscheme, not_blank_join hne hblank⟩
  rw [read_of_isParted hparted, ← hs, ← settle_value? h]
  simp only [given_assignments h]

/-! ### What is read can be written -/

/-- What the last values come to has them as its values, as far as these are free. -/
theorem value?_withLast (scheme : Text) (values : Param → List Text) {p : Param} (hp : p.IsFree) :
    (({ empty with scheme := some scheme } : Credentials).withLast values).value? p =
      (values p).getLast? := by
  cases p with
  | partner => exact lastOr_none _
  | key => exact lastOr_none _
  | signature => exact lastOr_none _
  | signedNames =>
    -- What was cut at every semicolon is put together again.
    have hcut : ∀ v : Text, v.splitOn ';' ≠ [] := fun v => List.splitOn_ne_nil ';' v
    cases hlast : (values .signedNames).getLast? <;>
      simp [value?, withLast, lastOr, hlast, empty, hcut, Text.join]
  | timestamp => exact hp.elim
  | canonicalize => exact hp.elim

/-- **What is read can be written**, and its free values are parts of the text it was read
from. -/
theorem writable_of_read {t : Text} {c : Credentials} (h : read t = .ok c) :
    c.Writable ∧ ∀ p v, p.IsFree → c.value? p = some v → v ⊆ t := by
  rcases Text.blank_or_isWord_or_isParted t with hblank | hword | ⟨scheme, rest, hparted⟩
  · exact absurd ((read_of_blank hblank).symm.trans h) (by simp)
  · exact absurd ((read_of_isWord hword).symm.trans h) (by simp)
  rw [read_of_isParted hparted] at h
  obtain ⟨-, rfl⟩ := settle_eq_ok_iff.mp h
  have hpiece : ∀ p v, p.IsFree →
      (({ empty with scheme := some scheme } : Credentials).withLast (given · rest)).value? p =
        some v → IsValue v ∧ v ⊆ t := by
    intro p v hp hv
    rw [value?_withLast scheme _ hp] at hv
    obtain ⟨piece, hmem, hvalue⟩ := List.mem_filterMap.mp (List.mem_of_getLast? hv)
    obtain ⟨whole, hwhole, rfl⟩ := List.mem_map.mp hmem
    obtain ⟨hval, hsub⟩ := isValue_of_valueIn? (Text.not_mem_of_mem_splitOn hwhole) hvalue
    obtain ⟨before, b, rfl, -⟩ := hparted.split
    refine ⟨hval, fun x hx => List.mem_append_right _ (List.mem_cons_of_mem _ ?_)⟩
    exact Text.subset_of_mem_splitOn hwhole (hsub hx)
  refine ⟨⟨⟨scheme, rfl, hparted.scheme_ne_nil, hparted.scheme_free⟩,
    fun p v hp hv => (hpiece p v hp hv).1, fun n hn => ?_⟩, fun p v hp hv => (hpiece p v hp hv).2⟩
  -- Names were cut at every semicolon.
  change n ∈ lastOr [] (·.splitOn ';') (given .signedNames rest) at hn
  rw [lastOr] at hn
  cases hlast : (given .signedNames rest).getLast? with
  | none => simp [hlast] at hn
  | some v => exact Text.not_mem_of_mem_splitOn (by simpa [hlast] using hn)

end Credentials

end Countersign
