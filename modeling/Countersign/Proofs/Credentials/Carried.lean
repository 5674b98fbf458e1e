import Countersign.Proofs.Credentials.RoundTrip
import Countersign.Proofs.Http.Values
import Countersign.Proofs.Signature

/-!
# Credentials in fields

Complete credentials of a plain partner and key (`Countersign.Credentials.IsPlain`)
can always be put into a header field, and what is read from that field is what was
put in (`Countersign.Credentials.exists_carried`). The names they cover are tokens, so
nothing in them collides with the commas, semicolons and blanks around them. Whether they
fit into a field at all is decided by partner and key alone
(`Countersign.Credentials.exists_ofText?_complete_iff`).

Values that were read from a field are plain
(`Countersign.Credentials.isPlain_of_read`), so whoever answers in the name of a partner
that was read can do so.
-/

namespace Countersign

open Http

/-! ### Characters -/

/-- Printable ASCII characters other than the space. -/
def Http.isGraphic (c : Char) : Bool := 0x21 ≤ c.toNat && c.toNat < 0x7F

theorem Http.isGraphic_iff {c : Char} : isGraphic c = true ↔ 0x21 ≤ c.toNat ∧ c.toNat < 0x7F := by
  simp [isGraphic]

theorem Http.isBlank_of_isGraphic {c : Char} (h : isGraphic c = true) : Text.isBlank c = false := by
  have hrange := isGraphic_iff.mp h
  simp only [Text.isBlank]
  simp
  omega

theorem Http.isVisible_of_isGraphic {c : Char} (h : isGraphic c = true) : isVisible c = true := by
  have hrange := isGraphic_iff.mp h
  exact isVisible_iff.mpr (Or.inl ⟨by omega, hrange.2⟩)

theorem Http.isGraphic_of_isTokenChar {c : Char} (h : isTokenChar c = true) :
    isGraphic c = true := by
  rw [isTokenChar, Bool.or_eq_true] at h
  rcases h with h | h
  · -- Letters and digits are three ranges of code points.
    change ((decide (65 ≤ c.val ∧ c.val ≤ 90) || decide (97 ≤ c.val) && decide (c.val ≤ 122)) ||
      decide (48 ≤ c.val) && decide (c.val ≤ 57)) = true at h
    simp only [Bool.or_eq_true, Bool.and_eq_true, decide_eq_true_eq, UInt32.le_iff_toNat_le] at h
    have hrange : (65 ≤ c.toNat ∧ c.toNat ≤ 90 ∨ 97 ≤ c.toNat ∧ c.toNat ≤ 122) ∨
        48 ≤ c.toNat ∧ c.toNat ≤ 57 := h
    rw [isGraphic_iff]
    omega
  · have hall : ∀ x ∈ "!#$%&'*+-.^_`|~".toList, isGraphic x = true :=
      List.all_eq_true.mp (by decide)
    exact hall c (List.contains_iff_mem.mp h)

theorem Http.not_separator_of_isTokenChar {c : Char} (h : isTokenChar c = true) :
    c ≠ ',' ∧ c ≠ ';' := by
  refine ⟨?_, ?_⟩
  · rintro rfl
    exact absurd h (by decide)
  · rintro rfl
    exact absurd h (by decide)

/-! ### Joined texts -/

/-- What holds of the separator and of all pieces holds of what is put together. -/
theorem Text.forall_mem_join {P : Char → Prop} {sep : Text} {pieces : List Text}
    (hsep : ∀ x ∈ sep, P x) (h : ∀ p ∈ pieces, ∀ x ∈ p, P x) :
    ∀ x ∈ join sep pieces, P x := by
  induction pieces with
  | nil => exact fun x hx => absurd hx List.not_mem_nil
  | cons first others ih =>
    cases others with
    | nil => simpa [join] using h first List.mem_cons_self
    | cons second others =>
      intro x hx
      rw [join, List.intercalate_cons_cons, List.mem_append, List.mem_append] at hx
      rcases hx with (hx | hx) | hx
      · exact h first List.mem_cons_self x hx
      · exact hsep x hx
      · exact ih (fun p hp => h p (List.mem_cons_of_mem _ hp)) x hx

theorem Text.join_ne_nil {sep : Text} {pieces : List Text} (hne : pieces ≠ [])
    (h : ∀ p ∈ pieces, p ≠ []) : join sep pieces ≠ [] := by
  obtain ⟨first, others, rfl⟩ := List.exists_cons_of_ne_nil hne
  cases others with
  | nil => simpa [join] using h first List.mem_cons_self
  | cons second others =>
    rw [join, List.intercalate_cons_cons]
    simp [h first List.mem_cons_self]

/-! ### What is read from a value -/

/-- **Credentials are read** from what is visible in a value. -/
theorem Carrier.read_eq_ok_iff {carrier : Carrier} {v : FieldValue} {c : Credentials} :
    carrier.read v = .ok c ↔ ∃ t, v.visible? = some t ∧ Credentials.read t = .ok c := by
  rw [Carrier.read]
  cases v.visible? with
  | none => simp
  | some t =>
    cases hread : Credentials.read t with
    | error e => simp [hread]
    | ok c' => simp [hread]

/-- Values that are the same but for blanks around them are read as the same. -/
theorem Carrier.eq_of_read {carrier : Carrier} {v v' : FieldValue} {c c' : Credentials}
    (h : carrier.read v = .ok c) (h' : carrier.read v' = .ok c')
    (htrim : Text.trim v.text = Text.trim v'.text) : c = c' := by
  obtain ⟨t, hvisible, hread⟩ := Carrier.read_eq_ok_iff.mp h
  obtain ⟨t', hvisible', hread'⟩ := Carrier.read_eq_ok_iff.mp h'
  rw [FieldValue.text_of_visible? hvisible, FieldValue.text_of_visible? hvisible'] at htrim
  have hsame : Credentials.read t = Credentials.read t' := by
    rw [Credentials.read, Credentials.read, htrim]
  exact Except.ok.inj (hread.symm.trans (hsame.trans hread'))

namespace Credentials

/-! ### Plain values -/

/-- A value that survives being carried in a header field. -/
structure IsPlain (v : Text) : Prop extends IsValue v where
  visible : ∀ x ∈ v, isVisible x = true

/-- Graphic text without commas is plain. -/
theorem isPlain_of_forall {v : Text} (hne : v ≠ []) (h : ∀ x ∈ v, isGraphic x = true ∧ x ≠ ',') :
    IsPlain v where
  toIsValue := isValue_of_forall hne fun x hx => ⟨isBlank_of_isGraphic (h x hx).1, (h x hx).2⟩
  visible x hx := isVisible_of_isGraphic (h x hx).1

theorem isPlain_of_isToken {v : Text} (h : IsToken v) : IsPlain v :=
  isPlain_of_forall h.1 fun x hx =>
    ⟨isGraphic_of_isTokenChar (h.2 x hx), (not_separator_of_isTokenChar (h.2 x hx)).1⟩

theorem isPlain_join {names : List Text} (hne : names ≠ []) (h : ∀ n ∈ names, IsToken n) :
    IsPlain (Text.join [';'] names) := by
  refine isPlain_of_forall (Text.join_ne_nil hne fun n hn => (h n hn).1) ?_
  refine Text.forall_mem_join (List.all_iff_forall_prop.mp (by decide)) fun n hn x hx => ?_
  have htoken := (h n hn).2 x hx
  exact ⟨isGraphic_of_isTokenChar htoken, (not_separator_of_isTokenChar htoken).1⟩

theorem isPlain_signatureOf (secret : Bytes) (m : Canonical.Message) (time : Int64) :
    IsPlain (signatureOf secret m time) := by
  have hdigit : ∀ x ∈ Hex.digits, isGraphic x = true ∧ x ≠ ',' :=
    List.all_iff_forall_prop.mp (by decide)
  refine isPlain_of_forall (fun hnil => ?_) fun x hx => hdigit x (Hex.mem_digits_of_mem_encode hx)
  have hlen := length_signatureOf secret m time
  rw [hnil] at hlen
  exact absurd hlen (by decide)

theorem isPlain_ofInt (z : Int) : IsPlain (Decimal.ofInt z) where
  toIsValue := isValue_ofInt z
  visible x hx := by
    rcases Decimal.mem_ofInt hx with h | rfl
    · refine isVisible_of_isGraphic (isGraphic_of_isTokenChar ?_)
      simp [isTokenChar, Char.isAlphanum, h]
    · decide

/-- What holds of visible characters, and of scheme and values, holds of the text of credentials. -/
theorem forall_mem_text {P : Char → Prop} (hP : ∀ x, isVisible x = true → P x) {c : Credentials}
    (hscheme : ∀ s, c.scheme = some s → ∀ x ∈ s, P x)
    (hvalue : ∀ p v, c.value? p = some v → ∀ x ∈ v, P x) : ∀ x ∈ c.text, P x := by
  have hassignment : ∀ a ∈ c.assignments, ∀ x ∈ a, P x := by
    intro a ha x hx
    rw [assignments_eq] at ha
    obtain ⟨⟨p, v⟩, hv, rfl⟩ := List.mem_map.mp ha
    have hname : ∀ x ∈ p.name, isVisible x = true := by
      cases p <;> exact List.all_eq_true.mp (by decide)
    rcases List.mem_append.mp hx with hx | hx
    · exact hP x (hname x hx)
    · rcases List.mem_cons.mp hx with rfl | hx
      · exact hP _ (by decide)
      · exact hvalue p v (mem_values_iff.mp hv) x hx
  have hbetween : ∀ x ∈ ", ".toList, P x := fun x hx =>
    hP x (List.all_eq_true.mp (by decide : ", ".toList.all isVisible = true) x hx)
  intro x hx
  rcases List.mem_append.mp hx with hx | hx
  · cases hs : c.scheme with
    | none =>
      rw [hs] at hx
      exact absurd hx List.not_mem_nil
    | some s =>
      rw [hs] at hx
      exact hscheme s hs x hx
  · cases has : c.assignments with
    | nil =>
      rw [has] at hx
      exact absurd hx List.not_mem_nil
    | cons a as =>
      rw [has] at hx hassignment
      rcases List.mem_cons.mp hx with rfl | hx
      · exact hP _ (by decide)
      · exact Text.forall_mem_join hbetween hassignment x hx

/-- What credentials hold is in their text. -/
theorem subset_text_of_value? {c : Credentials} {p : Param} {v : Text} (h : c.value? p = some v) :
    v ⊆ c.text := by
  intro x hx
  have hassignment : assignmentText p v ∈ c.assignments := by
    rw [assignments_eq]
    exact List.mem_map_of_mem (mem_values_iff.mpr h)
  have hmem : x ∈ assignmentText p v := by
    rw [assignmentText]
    exact List.mem_append_right _ (List.mem_cons_of_mem _ hx)
  rw [text]
  refine List.mem_append_right _ ?_
  cases has : c.assignments with
  | nil =>
    rw [has] at hassignment
    exact absurd hassignment List.not_mem_nil
  | cons a as =>
    rw [has] at hassignment
    exact List.mem_cons_of_mem _ (Text.subset_join hassignment hmem)

/-! ### Complete credentials -/

section Complete

variable {partner key : Text} {names : List Text}

section Values

variable (hnames : ∀ n ∈ names, IsToken n) (secret : Bytes) (m : Canonical.Message) (time : Int64)

include hnames

/-- The values of complete credentials are those of partner and key, or plain. -/
theorem value?_complete_cases {p : Param} {v : Text}
    (hv : (complete partner key names time (signatureOf secret m time)).value? p = some v) :
    v = partner ∨ v = key ∨ IsPlain v := by
  cases p with
  | partner => exact Or.inl (Option.some.inj hv).symm
  | key => exact Or.inr (Or.inl (Option.some.inj hv).symm)
  | signedNames =>
    rw [value?] at hv
    split_ifs at hv with hne
    obtain rfl := Option.some.inj hv
    exact Or.inr (Or.inr (isPlain_join hne hnames))
  | timestamp =>
    obtain rfl := Option.some.inj hv
    exact Or.inr (Or.inr (isPlain_ofInt _))
  | signature =>
    obtain rfl := Option.some.inj hv
    exact Or.inr (Or.inr (isPlain_signatureOf secret m time))
  | canonicalize => exact absurd hv (by simp [value?, complete, forKey, empty])

/-- **What holds of visible characters**, and of partner and key, holds of the text of complete
credentials. -/
theorem forall_mem_text_complete {P : Char → Prop} (hP : ∀ x, isVisible x = true → P x)
    (hpartner : ∀ x ∈ partner, P x) (hkey : ∀ x ∈ key, P x) :
    ∀ x ∈ (complete partner key names time (signatureOf secret m time)).text, P x := by
  refine forall_mem_text hP (fun s hs x hx => ?_) fun p v hv x hx => ?_
  · obtain rfl := Option.some.inj hs
    exact hP x (List.all_eq_true.mp (by decide : supportedScheme.all isVisible = true) x hx)
  · rcases value?_complete_cases hnames secret m time hv with rfl | rfl | hplain
    · exact hpartner x hx
    · exact hkey x hx
    · exact hP x (hplain.visible x hx)

/-- **Whether complete credentials fit into a field** is decided by partner and key. -/
theorem exists_ofText?_complete_iff :
    (∃ v, FieldValue.ofText? (complete partner key names time
        (signatureOf secret m time)).text = some v) ↔
      ∀ x ∈ partner ++ key, isCarriable x = true := by
  rw [FieldValue.exists_ofText?_eq_iff]
  constructor
  · intro h x hx
    rcases List.mem_append.mp hx with hx | hx
    · exact h x (subset_text_of_value? (p := .partner) rfl hx)
    · exact h x (subset_text_of_value? (p := .key) rfl hx)
  · intro h
    exact forall_mem_text_complete hnames secret m time
      (fun _ => FieldValue.isCarriable_of_isVisible)
      (fun x hx => h x (List.mem_append_left key hx))
      fun x hx => h x (List.mem_append_right partner hx)

end Values

section Plain

variable (hpartner : IsPlain partner) (hkey : IsPlain key) (hnames : ∀ n ∈ names, IsToken n)
  (secret : Bytes) (m : Canonical.Message) (time : Int64)

include hpartner hkey hnames

theorem writable_complete :
    (complete partner key names time (signatureOf secret m time)).Writable where
  scheme := ⟨supportedScheme, rfl, by decide, List.all_iff_forall_prop.mp (by decide)⟩
  value _ _ _ hv := by
    rcases value?_complete_cases hnames secret m time hv with rfl | rfl | hplain
    · exact hpartner.toIsValue
    · exact hkey.toIsValue
    · exact hplain.toIsValue
  names n hn hsemicolon :=
    (not_separator_of_isTokenChar ((hnames n hn).2 _ hsemicolon)).2 rfl

/-- **Complete credentials can be carried** in a field, and are read from it as they were. -/
theorem exists_carried :
    ∃ v, FieldValue.ofText? (complete partner key names time
        (signatureOf secret m time)).text = some v ∧
      ∀ carrier : Carrier, carrier.read v =
        .ok (complete partner key names time (signatureOf secret m time)) := by
  obtain ⟨v, hv, hvisible⟩ := FieldValue.exists_visible?_eq
    (forall_mem_text_complete hnames secret m time (fun _ => id) hpartner.visible hkey.visible)
  refine ⟨v, hv, fun carrier => ?_⟩
  have hset : (complete partner key names time (signatureOf secret m time)).value? .partner =
      some partner := rfl
  have hne : (complete partner key names time (signatureOf secret m time)).assignments ≠ [] := by
    rw [assignments_eq]
    exact List.ne_nil_of_mem (List.mem_map_of_mem (mem_values_iff.mpr hset))
  exact Carrier.read_eq_ok_iff.mpr ⟨_, hvisible,
    read_text (writable_complete hpartner hkey hnames secret m time) hne⟩

end Plain

end Complete

/-- **Values that were read from a field are plain.** -/
theorem isPlain_of_read {carrier : Carrier} {v : FieldValue} {c : Credentials}
    (h : carrier.read v = .ok c) {p : Param} {value : Text} (hp : p.IsFree)
    (hvalue : c.value? p = some value) : IsPlain value := by
  obtain ⟨t, hvisible, hread⟩ := Carrier.read_eq_ok_iff.mp h
  obtain ⟨hwritable, hsubset⟩ := writable_of_read hread
  exact ⟨hwritable.value p value hp hvalue, fun x hx =>
    FieldValue.isVisible_of_visible? hvisible x (hsubset p value hp hvalue hx)⟩

/-! ### Fields -/

/-- The credentials of a request were read from its only `Authorization` field. -/
theorem ofRequest_eq_ok_iff {fields : Fields} {c : Credentials} :
    ofRequest fields = .ok c ↔
      ∃ v, Carrier.authorization.values fields = [v] ∧ Carrier.authorization.read v = .ok c := by
  rw [ofRequest]
  split
  next hvalues => simp [hvalues]
  next v hvalues => simp [hvalues]
  next hnil hone =>
    refine ⟨fun h => absurd h (by simp), ?_⟩
    rintro ⟨v, hvalues, -⟩
    exact absurd hvalues (hone v)

end Credentials

namespace Carrier

theorem lower_name (carrier : Carrier) : Text.lower carrier.name = carrier.fieldName.text := by
  cases carrier <;> decide

/-- A field that was set has the value it was set to, and no other. -/
@[simp] theorem values_set (carrier : Carrier) (fields : Fields) (v : FieldValue) :
    carrier.values (fields.set carrier.fieldName v) = [v] := by
  rw [values, Fields.values_set, lower_name, if_pos rfl]

/-- If the field does not occur, or no name is about it, then no name that occurs is. -/
theorem lower_ne_of_mem_occurring {carrier : Carrier} {fields : Fields} {names : List Text}
    (h : fields.has carrier.name = false ∨ ∀ n ∈ names, Text.lower n ≠ Text.lower carrier.name) :
    ∀ n ∈ Canonical.occurring fields names, Text.lower n ≠ carrier.fieldName.text := by
  intro n hn
  obtain ⟨hmem, hhas⟩ := Canonical.mem_occurring_iff.mp hn
  rw [← lower_name]
  rcases h with habsent | hnames
  · intro he
    rw [Fields.has, fields.values_eq_of_lower_eq he, ← Fields.has, habsent] at hhas
    exact absurd hhas (by decide)
  · exact hnames n hmem

end Carrier

end Countersign
