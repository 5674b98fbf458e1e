import Countersign.Canonical.Coverage
import Countersign.Proofs.Canonical.SignedText
import Countersign.Proofs.Digest
import Countersign.Proofs.Http.Values

/-!
# What a signature covers

The three ways to deal with a declared name that does not occur meet in one point:
names that do not occur contribute no line
(`Countersign.Canonical.covered_occurring`), so the list that is left of the names
covers what the whole list does. And a field that is set covers nothing new as long
as no declared name is its own
(`Countersign.Canonical.covered_set`): that is why a signature can be put into the
fields it signs.

Everything that is built here from fields and targets of HTTP is well-formed, so its
signed text can be read in one way only.
-/

namespace Countersign.Canonical

open Http

/-! ### Names that occur -/

theorem linesOf_eq_nil_iff {fields : Fields} {name : Text} :
    linesOf fields name = [] ↔ fields.has name = false := by
  simp [linesOf, Fields.has]

theorem mem_occurring_iff {fields : Fields} {names : List Text} {name : Text} :
    name ∈ occurring fields names ↔ name ∈ names ∧ fields.has name = true := List.mem_filter

theorem covered_cons (fields : Fields) (name : Text) (names : List Text) :
    covered fields (name :: names) = linesOf fields name ++ covered fields names :=
  List.flatMap_cons

/-- Fields with the same values under all declared names have the same lines. -/
theorem covered_congr {fields fields' : Fields} {names : List Text}
    (h : ∀ n ∈ names, fields'.values n = fields.values n) :
    covered fields' names = covered fields names :=
  List.flatMap_congr fun n hn => by rw [linesOf, linesOf, h n hn]

/-- **Names that do not occur cover nothing.** -/
theorem covered_occurring (fields : Fields) (names : List Text) :
    covered fields (occurring fields names) = covered fields names := by
  induction names with
  | nil => rfl
  | cons name names ih =>
    rw [covered_cons, occurring, List.filter_cons]
    by_cases hname : fields.has name = true
    · rw [if_pos hname, covered_cons]
      exact congrArg _ ih
    · rw [if_neg hname, linesOf_eq_nil_iff.mpr (by simpa using hname)]
      exact ih

/-! ### What becomes of the names that do not occur -/

/-- **Taking names off the list**: what is left are the names that occur, and the lines are those of
all names. -/
theorem retained_eq (fields : Fields) (names : List Text) :
    retained fields names = (covered fields names, occurring fields names) := by
  induction names with
  | nil => rfl
  | cons name names ih =>
    rw [retained, ih, covered_cons, occurring, occurring, List.filter_cons]
    by_cases hname : fields.has name = true
    · have hlines : linesOf fields name ≠ [] := fun h => by
        rw [linesOf_eq_nil_iff.mp h] at hname
        exact Bool.noConfusion hname
      simp only [List.isEmpty_iff, if_neg hlines, if_pos hname]
    · have hlines : linesOf fields name = [] := linesOf_eq_nil_iff.mpr (by simpa using hname)
      simp only [List.isEmpty_iff, if_pos hlines, if_neg hname]

theorem Request.outgoing_eq (head : Head) (names : List Text) (body : Bytes) :
    Request.outgoing head names body =
      (Request.of head names (Digest.ofBytes body), occurring head.fields names) := by
  rw [outgoing, retained_eq]
  rfl

theorem required_cons_of_has {fields : Fields} {name : Text} (h : fields.has name = true)
    (names : List Text) :
    required fields (name :: names) =
      (required fields names).map (linesOf fields name ++ ·) := by
  refine if_neg fun hempty => ?_
  rw [linesOf_eq_nil_iff.mp (List.isEmpty_iff.mp hempty)] at h
  exact Bool.noConfusion h

theorem required_cons_of_not_has {fields : Fields} {name : Text} (h : fields.has name = false)
    (names : List Text) :
    required fields (name :: names) = .error (.coveredFieldAbsent name) :=
  if_pos (List.isEmpty_iff.mpr (linesOf_eq_nil_iff.mpr h))

/-- **If every name occurs**, nothing is refused. -/
theorem required_eq_ok {fields : Fields} {names : List Text}
    (h : ∀ n ∈ names, fields.has n = true) :
    required fields names = .ok (covered fields names) := by
  induction names with
  | nil => rfl
  | cons name names ih =>
    rw [required_cons_of_has (h name List.mem_cons_self),
      ih fun n hn => h n (List.mem_cons_of_mem name hn), covered_cons]
    rfl

/-- **The first name that does not occur** is the one that is refused. -/
theorem required_eq_error {fields : Fields} {before after : List Text} {name : Text}
    (hbefore : ∀ n ∈ before, fields.has n = true) (hname : fields.has name = false) :
    required fields (before ++ name :: after) = .error (.coveredFieldAbsent name) := by
  induction before with
  | nil => exact required_cons_of_not_has hname after
  | cons n before ih =>
    rw [List.cons_append, required_cons_of_has (hbefore n List.mem_cons_self),
      ih fun m hm => hbefore m (List.mem_cons_of_mem n hm)]
    rfl

/-- Either every name occurs, or there is a first one that does not. -/
theorem forall_has_or_exists_first (fields : Fields) (names : List Text) :
    (∀ n ∈ names, fields.has n = true) ∨
      ∃ before name after, names = before ++ name :: after ∧
        (∀ n ∈ before, fields.has n = true) ∧ fields.has name = false := by
  cases hfind : names.find? fun n => !fields.has n with
  | none => exact Or.inl (by simpa using hfind)
  | some name =>
    obtain ⟨hname, before, after, hnames, hbefore⟩ := List.find?_eq_some_iff_append.mp hfind
    exact Or.inr ⟨before, name, after, hnames, by simpa using hbefore, by simpa using hname⟩

/-- A received request is accepted when every declared name occurs. -/
theorem Request.received_eq_ok_iff {head : Head} {names : List Text} {digest : Option Text}
    {r : Request} :
    Request.received head names digest = .ok r ↔
      (∀ n ∈ names, head.fields.has n = true) ∧ r = Request.of head names digest := by
  rw [Request.received]
  rcases forall_has_or_exists_first head.fields names with hall | ⟨before, n, after, rfl, hb, hn⟩
  · rw [required_eq_ok hall]
    exact ⟨fun h => ⟨hall, (Except.ok.inj h).symm⟩, fun h => congrArg Except.ok h.2.symm⟩
  · rw [required_eq_error hb hn]
    refine ⟨fun h => absurd h (by simp [Except.map]), fun h => ?_⟩
    have hhas := h.1 n (List.mem_append_right before List.mem_cons_self)
    exact absurd (hhas.symm.trans hn) (by simp)

/-- A received request is refused for the first declared name that does not occur. -/
theorem Request.received_eq_error_iff {head : Head} {names : List Text} {digest : Option Text}
    {f : Fault} :
    Request.received head names digest = .error f ↔
      ∃ before name after, names = before ++ name :: after ∧
        (∀ n ∈ before, head.fields.has n = true) ∧ head.fields.has name = false ∧
        f = .coveredFieldAbsent name := by
  constructor
  · intro h
    rcases forall_has_or_exists_first head.fields names with hall | ⟨before, n, after, rfl, hb, hn⟩
    · rw [received_eq_ok_iff.mpr ⟨hall, rfl⟩] at h
      exact absurd h (by simp)
    · rw [received, required_eq_error hb hn] at h
      exact ⟨before, n, after, rfl, hb, hn, (Except.error.inj h).symm⟩
  · rintro ⟨before, name, after, rfl, hbefore, hname, rfl⟩
    rw [received, required_eq_error hbefore hname]
    rfl

/-! ### Setting a field -/

/-- The values under a name stay when a field of another name is set. -/
theorem values_set_of_ne {fields : Fields} {name : FieldName} {v : FieldValue} {n : Text}
    (h : Text.lower n ≠ name.text) : (fields.set name v).values n = fields.values n := by
  rw [Fields.values_set, if_neg h.symm]

theorem has_set_of_ne {fields : Fields} {name : FieldName} {v : FieldValue} {n : Text}
    (h : Text.lower n ≠ name.text) : (fields.set name v).has n = fields.has n := by
  rw [Fields.has, Fields.has, values_set_of_ne h]

/-- A field that no declared name is about changes nothing about which of them occur. -/
theorem occurring_set {fields : Fields} {name : FieldName} {v : FieldValue} {names : List Text}
    (h : ∀ n ∈ names, Text.lower n ≠ name.text) :
    occurring (fields.set name v) names = occurring fields names :=
  List.filter_congr fun n hn => has_set_of_ne (h n hn)

/-- **A field that no declared name is about covers nothing when it is set.** -/
theorem covered_set {fields : Fields} {name : FieldName} {v : FieldValue} {names : List Text}
    (h : ∀ n ∈ names, Text.lower n ≠ name.text) :
    covered (fields.set name v) names = covered fields names :=
  covered_congr fun n hn => values_set_of_ne (h n hn)

/-! ### What is built is well-formed -/

theorem wellFormed_of_mem_covered {fields : Fields} {names : List Text} {l : Line}
    (h : l ∈ covered fields names) : l.WellFormed := by
  obtain ⟨name, -, hl⟩ := List.mem_flatMap.mp h
  obtain ⟨v, hv, rfl⟩ := List.mem_map.mp hl
  have hhas : fields.has name = true := Fields.has_iff.mpr (List.ne_nil_of_mem hv)
  exact ⟨Fields.isToken_of_has hhas,
    fun hn => v.newline_not_mem_text (Text.trim_subset v.text hn)⟩

theorem isDigest_ofBytes (body : Bytes) : IsDigest (Digest.ofBytes body) := by
  intro d hd
  refine ⟨Digest.length_of_ofBytes_eq_some hd, fun c hc => ?_⟩
  obtain ⟨-, rfl⟩ := Digest.ofBytes_eq_some_iff.mp hd
  exact Hex.mem_digits_of_mem_encode hc

/-- **Canonical requests of HTTP requests are well-formed.** -/
theorem Request.wellFormed_of (head : Head) (names : List Text) (body : Bytes) :
    (Request.of head names (Digest.ofBytes body)).WellFormed where
  method := head.method.isToken
  path := head.target.path_clean
  query q hq hn := head.target.query_clean (by
    rw [show head.target.query = some q from hq]
    exact hn)
  lines _ hl := wellFormed_of_mem_covered hl
  digest := isDigest_ofBytes body

/-! ### Messages of HTTP requests -/

/-- The message that a request with the given body signs if these names are declared. -/
def Message.covering (names : List Text) (head : Head) (body : Bytes) : Message :=
  .request (Request.of head names (Digest.ofBytes body))

/-- **Leaving out what does not occur** does not change the message. -/
theorem Message.covering_occurring (names : List Text) (head : Head) (body : Bytes) :
    covering (occurring head.fields names) head body = covering names head body := by
  rw [covering, covering, Request.of, covered_occurring]
  rfl

/-- A field that no declared name is about can be set without changing the message. -/
theorem Message.covering_set {names : List Text} {name : FieldName}
    (h : ∀ n ∈ names, Text.lower n ≠ name.text) (head : Head) (v : FieldValue) (body : Bytes) :
    covering names { head with fields := head.fields.set name v } body =
      covering names head body := by
  rw [covering, covering, Request.of, covered_set h]
  rfl

theorem Message.wellFormed_covering (names : List Text) (head : Head) (body : Bytes) :
    (covering names head body).WellFormed := Request.wellFormed_of head names body

/-- **What a message of a request determines**: method, path, query, the covered lines, and the
body as far as the hash tells the two bodies apart. -/
theorem Message.eq_of_covering_eq {names names' : List Text} {head head' : Head}
    {body body' : Bytes} (hash : Sha256.hash body = Sha256.hash body' → body = body')
    (h : covering names head body = covering names' head' body') :
    head.method = head'.method ∧ head.target.path = head'.target.path ∧
      head.target.query = head'.target.query ∧
      covered head.fields names = covered head'.fields names' ∧ body = body' := by
  obtain ⟨hmethod, hpath, hquery, hlines, hdigest⟩ := Request.mk.inj (Message.request.inj h)
  refine ⟨?_, hpath, hquery, hlines, Digest.eq_of_ofBytes_eq hash hdigest⟩
  obtain ⟨⟨method, hm⟩, target, fields⟩ := head
  obtain ⟨⟨method', hm'⟩, target', fields'⟩ := head'
  obtain rfl : method = method' := hmethod
  rfl

end Countersign.Canonical
