import Countersign.Credentials.Reader
import Countersign.Fault
import Countersign.Proofs.Text.Edges
import Countersign.Proofs.Text.Numerals
import Mathlib.Data.Bool.AllAny

/-!
# The grammar of credentials

`Countersign.Credentials.read` goes through a text from left to right: it trims, cuts,
overwrites, and stops at the first bad time. This file says without any of that which text is
read as what.

## The three forms of a text

* It is *blank*.
* It is a *word*: blanks around something without a blank in it
  (`Countersign.Text.IsWord`).
* It is *parted*: a scheme, a blank and a rest that is not blank
  (`Countersign.Text.IsParted`). Which character parts them is of no consequence, and the
  rest may begin and end in blanks.

## What counts

Of the rest only the pieces between its commas matter, and of a piece only the value that it
gives a parameter (`Countersign.Param.valueIn?`). So all that the reader sees of a rest are, for
each parameter, the values it is given, in order (`Countersign.Credentials.given`). A value of the
time that denotes no number of 64 bits is refused, wherever it stands, and the first of them is
reported; otherwise the last value of each parameter decides.

`Countersign.Credentials.read_of_isParted` is that in one equation. Its right-hand side mentions
the rest through `given` alone, which is why pieces that do not count and blanks around
those that do are of no consequence (`Countersign.Credentials.given_eq_of_loosened`).
-/

namespace Countersign

namespace Text

/-! ### The three forms of a text -/

/-- Blanks around something without a blank in it. -/
def IsWord (t : Text) : Prop :=
  ∃ before word after, t = before ++ word ++ after ∧ Blank before ∧ Blank after ∧ word ≠ [] ∧
    ∀ x ∈ word, isBlank x = false

/-- A text that begins, after blanks, with a scheme, a blank and a rest. -/
structure IsParted (t scheme rest : Text) : Prop where
  split : ∃ before b, t = before ++ scheme ++ b :: rest ∧ Blank before ∧ isBlank b = true
  scheme_ne_nil : scheme ≠ []
  scheme_free : ∀ x ∈ scheme, isBlank x = false
  rest_not_blank : ¬Blank rest

theorem IsWord.trim_eq {t : Text} (h : IsWord t) :
    trim t ≠ [] ∧ ∀ x ∈ trim t, isBlank x = false := by
  obtain ⟨before, word, after, rfl, hbefore, hafter, hne, hfree⟩ := h
  obtain ⟨c, r, rfl⟩ := List.exists_cons_of_ne_nil hne
  have htrim : trim (before ++ c :: r ++ after) = c :: r := by
    rw [trim_append_blank _ hafter, trim_blank_append _ hbefore,
      trim_cons_of_not_blank _ (hfree c List.mem_cons_self), trimEnd_eq_self hfree]
  rw [htrim]
  exact ⟨hne, hfree⟩

theorem IsParted.exists_trim_eq {t scheme rest : Text} (h : IsParted t scheme rest) :
    ∃ b, isBlank b = true ∧ trim t = scheme ++ b :: trimEnd rest := by
  obtain ⟨⟨before, b, rfl, hbefore, hb⟩, hne, hfree, hrest⟩ := h
  obtain ⟨c, r, rfl⟩ := List.exists_cons_of_ne_nil hne
  refine ⟨b, hb, ?_⟩
  have hsplit : c :: (r ++ b :: rest) = (c :: r ++ [b]) ++ rest := by simp
  rw [List.append_assoc, trim_blank_append _ hbefore, List.cons_append,
    trim_cons_of_not_blank _ (hfree c List.mem_cons_self), hsplit, trimEnd_append _ hrest]
  simp

/-- **Every text has one of the three forms.** -/
theorem blank_or_isWord_or_isParted (t : Text) :
    Blank t ∨ IsWord t ∨ ∃ scheme rest, IsParted t scheme rest := by
  by_cases hblank : Blank t
  · exact Or.inl hblank
  obtain ⟨before, after, ht, hbefore, hafter⟩ := exists_eq_trim t
  obtain ⟨c, r, hcr⟩ := List.exists_cons_of_ne_nil (mt trim_eq_nil_iff.mp hblank)
  cases hcut : cut isBlank (trim t) with
  | none =>
    exact Or.inr (Or.inl ⟨before, trim t, after, ht, hbefore, hafter, mt trim_eq_nil_iff.mp hblank,
      cut_eq_none_iff.mp hcut⟩)
  | some parts =>
    obtain ⟨scheme, rest⟩ := parts
    obtain ⟨b, hb, heq, hfree⟩ := eq_of_cut hcut
    refine Or.inr (Or.inr ⟨scheme, rest ++ after, ⟨before, b, ?_, hbefore, hb⟩, ?_, hfree, ?_⟩)
    · rw [ht, heq]
      simp
    · -- A trimmed text does not begin with a blank, so something stands in front of the first.
      rintro rfl
      obtain ⟨rfl, -⟩ := List.cons.inj (hcr.symm.trans heq)
      exact absurd hb (by simp [not_blank_of_trim_eq_cons hcr])
    · -- Nor does it end in one, so something stands behind it.
      intro hrest
      have hlast : trimEnd (scheme ++ b :: rest) = trimEnd scheme :=
        trimEnd_append_blank scheme (List.forall_mem_cons.mpr ⟨hb, (blank_append.mp hrest).1⟩)
      rw [← heq, trimEnd_trim, trimEnd_eq_self hfree] at hlast
      exact absurd (hlast.symm.trans heq) (by simp)

end Text

/-! ### What counts -/

/-- The value that a piece gives a parameter: what stands behind its name and the first `=`, if
that is not blank. -/
def Param.valueIn? (p : Param) (piece : Text) : Option Text :=
  (piece.dropPrefix? (p.name ++ ['='])).filter fun v => ¬Text.Blank v

theorem Param.valueIn?_eq_some_iff {p : Param} {piece v : Text} :
    p.valueIn? piece = some v ↔ piece = p.name ++ '=' :: v ∧ ¬Text.Blank v := by
  simp [valueIn?, Option.filter_eq_some_iff, List.dropPrefix?_eq_some_iff]

namespace Credentials

/-- The values that a parameter is given, in order, by the pieces between the commas of a text. -/
def given (p : Param) (rest : Text) : List Text :=
  ((rest.splitOn ',').map Text.trim).filterMap p.valueIn?

/-- What the reader takes a piece for is what the piece gives, as soon as it is trimmed. -/
theorem assignment?_eq_some_iff {piece : Text} {p : Param} {v : Text} :
    assignment? piece = some (p, v) ↔ p.valueIn? (Text.trim piece) = some v := by
  have hname : ∀ x ∈ p.name, (x == '=') = false := by
    cases p <;> exact List.all_iff_forall_prop.mp (by decide)
  rw [Param.valueIn?_eq_some_iff, assignment?, Option.bind_eq_some_iff]
  constructor
  · rintro ⟨⟨name, value⟩, hcut, hassign⟩
    simp only at hassign
    split_ifs at hassign with hblank
    obtain ⟨q, hq, hpair⟩ := Option.map_eq_some_iff.mp hassign
    obtain ⟨rfl, rfl⟩ := Prod.mk.inj hpair
    obtain rfl := Param.ofName?_eq_some_iff.mp hq
    obtain ⟨c, hc, heq, -⟩ := Text.eq_of_cut hcut
    obtain rfl := eq_of_beq hc
    exact ⟨heq, mt Text.trim_eq_nil_iff.mpr hblank⟩
  · rintro ⟨heq, hblank⟩
    refine ⟨(p.name, v), heq ▸ Text.cut_append v hname (by decide), ?_⟩
    simp [hblank, Param.ofName?_name]

/-! ### The values of a rest -/

/-- **A comma separates** what stands in front of it from what follows. -/
theorem given_append_comma (p : Param) (a b : Text) :
    given p (a ++ ',' :: b) = given p a ++ given p b := by
  rw [given, List.splitOn_append_cons_self, List.map_append, List.filterMap_append, given, given]

theorem given_of_not_mem (p : Param) {a : Text} (h : ',' ∉ a) :
    given p a = (p.valueIn? (Text.trim a)).toList := by
  rw [given, List.splitOn_eq_singleton h, List.map_singleton]
  cases hv : p.valueIn? (Text.trim a) <;> simp [hv]

/-- A blank at the beginning belongs to the first piece, so it is trimmed off. -/
theorem given_cons_blank (p : Param) (a : Text) {b : Char} (hb : Text.isBlank b = true) :
    given p (b :: a) = given p a := by
  have hne : ',' ≠ b := by
    rintro rfl
    exact absurd hb (by decide)
  have hfirst : ∀ first : Text, ',' ∉ first → given p (b :: first) = given p first := by
    intro first hfree
    rw [given_of_not_mem p hfree, given_of_not_mem p (List.not_mem_cons_of_ne_of_not_mem hne hfree),
      Text.trim_cons_of_blank first hb]
  by_cases hcomma : ',' ∈ a
  · obtain ⟨first, others, rfl, hfree⟩ := List.eq_append_cons_of_mem hcomma
    rw [← List.cons_append, given_append_comma, given_append_comma, hfirst first hfree]
  · exact hfirst a hcomma

/-- Blanks at the end belong to the last piece, so they are trimmed off. -/
theorem given_append_blank (p : Param) (a : Text) {w : Text} (hw : Text.Blank w) :
    given p (a ++ w) = given p a := by
  have hfree : ',' ∉ w := fun h => absurd (hw _ h) (by decide)
  induction hn : a.length using Nat.strongRecOn generalizing a with
  | ind n ih =>
    by_cases hcomma : ',' ∈ a
    · obtain ⟨first, others, rfl⟩ := List.append_of_mem hcomma
      have hothers := ih others.length (by simp [← hn]; omega) others rfl
      rw [List.append_assoc, List.cons_append, given_append_comma, given_append_comma, hothers]
    · rw [given_of_not_mem p hcomma, given_of_not_mem p (by simp [hcomma, hfree]),
        Text.trim_append_blank a hw]

theorem given_trimEnd (p : Param) (a : Text) : given p (Text.trimEnd a) = given p a := by
  have hsplit : a = Text.trimEnd a ++ a.rtakeWhile Text.isBlank := by
    rw [Text.trimEnd_eq_rdropWhile, List.rdropWhile_append_rtakeWhile]
  have hblank : Text.Blank (a.rtakeWhile Text.isBlank) := fun c hc => List.mem_rtakeWhile_imp hc
  rw [hsplit, given_append_blank p _ hblank, ← hsplit]

/-- One list of pieces is another with more blanks around its pieces, and with pieces among them
that do not count. -/
inductive Loosened : List Text → List Text → Prop where
  | nil : Loosened [] []
  | pad {before piece after : Text} {loose pieces : List Text} (hbefore : Text.Blank before)
    (hafter : Text.Blank after) (h : Loosened loose pieces) :
    Loosened ((before ++ piece ++ after) :: loose) (piece :: pieces)
  | insert {piece : Text} {loose pieces : List Text}
    (hpiece : ∀ p : Param, p.valueIn? (Text.trim piece) = none) (h : Loosened loose pieces) :
    Loosened (piece :: loose) pieces

/-- **Blanks around pieces, and pieces that do not count**, give nothing. -/
theorem given_eq_of_loosened {rest' rest : Text}
    (h : Loosened (rest'.splitOn ',') (rest.splitOn ',')) (p : Param) :
    given p rest' = given p rest := by
  rw [given, given]
  generalize rest'.splitOn ',' = loose at h ⊢
  generalize rest.splitOn ',' = pieces at h ⊢
  induction h with
  | nil => rfl
  | pad hbefore hafter _ ih =>
    rw [List.map_cons, List.map_cons, Text.trim_append_blank _ hafter,
      Text.trim_blank_append _ hbefore, List.filterMap_cons, List.filterMap_cons, ih]
  | insert hpiece _ ih => rw [List.map_cons, List.filterMap_cons_none (hpiece p), ih]

/-! ### What values come to -/

/-- What the last of several values comes to, and something else if there is none. -/
def lastOr {β : Type} (unset : β) (f : Text → β) (values : List Text) : β :=
  (values.getLast?.map f).getD unset

@[simp] theorem lastOr_nil {β : Type} (unset : β) (f : Text → β) : lastOr unset f [] = unset := rfl

/-- What was set before is forgotten. -/
@[simp] theorem lastOr_cons {β : Type} (unset : β) (f : Text → β) (v : Text) (values : List Text) :
    lastOr unset f (v :: values) = lastOr (f v) f values := by
  rw [lastOr, lastOr, List.getLast?_cons]
  cases values.getLast? <;> rfl

theorem lastOr_none (values : List Text) : lastOr none some values = values.getLast? := by
  rw [lastOr]
  cases values.getLast? <;> rfl

/-- Credentials with the last of the values that each parameter is given. -/
def withLast (c : Credentials) (values : Param → List Text) : Credentials where
  scheme := c.scheme
  partner := lastOr c.partner some (values .partner)
  key := lastOr c.key some (values .key)
  signedNames := lastOr c.signedNames (·.splitOn ';') (values .signedNames)
  timestamp := lastOr c.timestamp Decimal.int64? (values .timestamp)
  signature := lastOr c.signature some (values .signature)
  canonicalize :=
    lastOr c.canonicalize (fun v => some (Text.lower v = "true".toList)) (values .canonicalize)

/-- What values come to: the first that should be a time and is none, or else the last ones. -/
def settle (c : Credentials) (values : Param → List Text) : Except Unreadable Credentials :=
  match (values .timestamp).find? fun v => ¬Decimal.IsTime v with
  | some v => .error (.badTimestamp v)
  | none => .ok (c.withLast values)

theorem settle_eq_ok_iff {c c' : Credentials} {values : Param → List Text} :
    c.settle values = .ok c' ↔
      (∀ v ∈ values .timestamp, Decimal.IsTime v) ∧ c' = c.withLast values := by
  rw [settle]
  split
  next v hv =>
    refine ⟨fun h => absurd h (by simp), ?_⟩
    rintro ⟨htimes, -⟩
    exact absurd (htimes v (List.mem_of_find?_eq_some hv)) (by simpa using List.find?_some hv)
  next hnone =>
    have htimes : ∀ v ∈ values .timestamp, Decimal.IsTime v := by simpa using hnone
    exact ⟨fun h => ⟨htimes, (Except.ok.inj h).symm⟩, fun h => congrArg Except.ok h.2.symm⟩

/-- The values of a parameter among assignments. -/
def valuesOf (p : Param) (as : List (Param × Text)) : List Text :=
  as.filterMap fun a => if a.1 = p then some a.2 else none

theorem valuesOf_cons (p q : Param) (v : Text) (as : List (Param × Text)) :
    valuesOf q ((p, v) :: as) = if p = q then v :: valuesOf q as else valuesOf q as := by
  rw [valuesOf, List.filterMap_cons]
  split_ifs <;> rfl

/-- **One after the other, or all at once**: setting parameters in order comes to the last values,
unless there is a value that should be a time and is none. -/
theorem foldlM_assign (as : List (Param × Text)) (c : Credentials) :
    as.foldlM assign c = c.settle (valuesOf · as) := by
  induction as generalizing c with
  | nil => cases c; rfl
  | cons a as ih =>
    obtain ⟨p, v⟩ := a
    rw [List.foldlM_cons]
    cases p with
    | timestamp =>
      cases hv : Decimal.int64? v with
      | none =>
        have hbad : ¬Decimal.IsTime v := by simp [Decimal.isTime_iff, hv]
        simp [assign, hv, settle, valuesOf_cons, hbad, bind, Except.bind]
      | some t =>
        have htime : Decimal.IsTime v := Decimal.isTime_iff.mpr ⟨t, hv⟩
        simp [assign, hv, ih, settle, withLast, valuesOf_cons, htime, bind, Except.bind]
    | _ => simp [assign, ih, settle, withLast, valuesOf_cons, bind, Except.bind]

theorem given_eq (p : Param) (rest : Text) :
    given p rest = valuesOf p ((rest.splitOn ',').filterMap assignment?) := by
  rw [given, valuesOf, List.filterMap_map, List.filterMap_filterMap]
  refine List.filterMap_congr fun piece _ => Option.ext fun v => ?_
  rw [Function.comp_apply, ← assignment?_eq_some_iff, Option.bind_eq_some_iff]
  constructor
  · intro h
    exact ⟨(p, v), h, by simp⟩
  · rintro ⟨⟨q, v'⟩, h, hq⟩
    simp only at hq
    split_ifs at hq with hqp
    obtain rfl := Option.some.inj hq
    exact hqp ▸ h

/-! ### The reader -/

theorem read_of_blank {t : Text} (h : Text.Blank t) : read t = .error .empty := by
  rw [read, Text.trim_eq_nil_iff.mpr h]

theorem read_of_isWord {t : Text} (h : Text.IsWord t) : read t = .error .noParameters := by
  obtain ⟨hne, hfree⟩ := h.trim_eq
  obtain ⟨c, r, hcr⟩ := List.exists_cons_of_ne_nil hne
  rw [read, hcr]
  simp only
  rw [Text.cut_eq_none_iff.mpr (hcr ▸ hfree)]

/-- **A parted text is read for its values**, and for nothing else. -/
theorem read_of_isParted {t scheme rest : Text} (h : Text.IsParted t scheme rest) :
    read t = ({ empty with scheme := some scheme } : Credentials).settle (given · rest) := by
  obtain ⟨b, hb, htrim⟩ := h.exists_trim_eq
  have hcut : Text.cut Text.isBlank (Text.trim t) = some (scheme, Text.trimEnd rest) :=
    htrim ▸ Text.cut_append _ h.scheme_free hb
  obtain ⟨c, r, hcr⟩ := List.exists_cons_of_ne_nil (show Text.trim t ≠ [] by simp [htrim])
  rw [hcr] at hcut
  rw [read, hcr]
  simp only [hcut]
  rw [foldlM_assign]
  simp only [← given_eq, given_trimEnd]

/-! ### What is read of which text -/

/-- Credentials that hold, of the values each parameter is given, the last one. -/
structure Holds (c : Credentials) (scheme : Text) (values : Param → List Text) : Prop where
  scheme : c.scheme = some scheme
  partner : c.partner = (values .partner).getLast?
  key : c.key = (values .key).getLast?
  signature : c.signature = (values .signature).getLast?
  /-- Empty names between two semicolons are kept. -/
  signedNames : c.signedNames = match (values .signedNames).getLast? with
    | none => []
    | some v => v.splitOn ';'
  timestamp : ∀ t, c.timestamp = some t ↔
    ∃ v, (values .timestamp).getLast? = some v ∧ Decimal.Denotes v t.toInt
  /-- Any other value than `true`, in upper or lower case, is taken for a no. -/
  canonicalize : c.canonicalize =
    (values .canonicalize).getLast?.map fun v => decide (Text.lower v = "true".toList)

theorem holds_withLast (scheme : Text) (values : Param → List Text) :
    (({ empty with scheme := some scheme } : Credentials).withLast values).Holds scheme values where
  scheme := rfl
  partner := lastOr_none _
  key := lastOr_none _
  signature := lastOr_none _
  signedNames := by cases h : (values .signedNames).getLast? <;> simp [withLast, lastOr, empty, h]
  timestamp t := by
    cases h : (values .timestamp).getLast? with
    | none => simp [withLast, lastOr, empty, h]
    | some v => simp [withLast, lastOr, h, Decimal.int64?_eq_some_iff]
  canonicalize := by
    cases h : (values .canonicalize).getLast? <;> simp [withLast, lastOr, empty, h]

/-- A text is refused as credentials, with a wording. -/
def IsRefused (t wording : Text) : Prop :=
  ∃ cause, read t = .error cause ∧ (Fault.malformed cause).kind = .malformedHeader ∧
    (Fault.malformed cause).detail = wording

/-- The wording says which failure it is: the first letter already does. -/
theorem detail_injective : Function.Injective Unreadable.detail := by
  intro e e' h
  have hfirst : e.detail.head? = e'.detail.head? := congrArg List.head? h
  have hvalue : ∀ v v', (Unreadable.badTimestamp v).detail = (Unreadable.badTimestamp v').detail →
      v = v' := fun _ _ => List.append_cancel_left
  cases e with
  | empty =>
    cases e' with
    | empty => rfl
    | noParameters => exact absurd hfirst (show some 'c' ≠ some 'f' by decide)
    | badTimestamp v => exact absurd hfirst (show some 'c' ≠ some 'i' by decide)
  | noParameters =>
    cases e' with
    | empty => exact absurd hfirst (show some 'f' ≠ some 'c' by decide)
    | noParameters => rfl
    | badTimestamp v => exact absurd hfirst (show some 'f' ≠ some 'i' by decide)
  | badTimestamp v =>
    cases e' with
    | empty => exact absurd hfirst (show some 'i' ≠ some 'c' by decide)
    | noParameters => exact absurd hfirst (show some 'i' ≠ some 'f' by decide)
    | badTimestamp v' => rw [hvalue v v' h]

theorem isRefused_detail_iff {t : Text} {cause : Unreadable} :
    IsRefused t cause.detail ↔ read t = .error cause := by
  constructor
  · rintro ⟨cause', hread, -, hdetail⟩
    rw [hread, detail_injective hdetail]
  · intro h
    exact ⟨cause, h, rfl, rfl⟩

/-- Of a parted text only a time can be refused, and the first that has to be is. -/
theorem read_eq_error_iff_of_isParted {t scheme rest : Text} (h : Text.IsParted t scheme rest)
    {cause : Unreadable} :
    read t = .error cause ↔
      ∃ v, (given .timestamp rest).find? (fun v => ¬Decimal.IsTime v) = some v ∧
        cause = .badTimestamp v := by
  rw [read_of_isParted h, settle]
  split
  next v hv =>
    refine ⟨fun h => ⟨v, hv, (Except.error.inj h).symm⟩, ?_⟩
    rintro ⟨v', hv', rfl⟩
    rw [Option.some.inj (hv.symm.trans hv')]
  next hnone =>
    refine ⟨fun h => absurd h (by simp), ?_⟩
    rintro ⟨v, hv, -⟩
    exact absurd (hnone.symm.trans hv) (by simp)

/-- A failure that is not about a time does not come from a parted text. -/
theorem blank_or_isWord_of_read {t : Text} {cause : Unreadable} (h : read t = .error cause)
    (hcause : ∀ v, cause ≠ .badTimestamp v) : Text.Blank t ∨ Text.IsWord t := by
  rcases Text.blank_or_isWord_or_isParted t with hblank | hword | ⟨scheme, rest, hparted⟩
  · exact Or.inl hblank
  · exact Or.inr hword
  · obtain ⟨v, -, hv⟩ := (read_eq_error_iff_of_isParted hparted).mp h
    exact absurd hv (hcause v)

theorem read_eq_empty_iff {t : Text} : read t = .error .empty ↔ Text.Blank t := by
  refine ⟨fun h => ?_, read_of_blank⟩
  rcases blank_or_isWord_of_read h (by simp) with hblank | hword
  · exact hblank
  · exact absurd ((read_of_isWord hword).symm.trans h) (by simp)

theorem read_eq_noParameters_iff {t : Text} : read t = .error .noParameters ↔ Text.IsWord t := by
  refine ⟨fun h => ?_, read_of_isWord⟩
  rcases blank_or_isWord_of_read h (by simp) with hblank | hword
  · exact absurd ((read_of_blank hblank).symm.trans h) (by simp)
  · exact hword

/-- **The grammar of credentials.** A text is refused as empty exactly if it is blank, and for its
format exactly if it is a word; every other text is parted into a scheme and a rest. Then the first
value in the rest that should be a time and is none is reported, if there is one; else credentials
are read, and they hold the scheme and the last value that each parameter is given. So texts with
the same scheme are read as the same if they differ in blanks around pieces and in pieces that do
not count, and wherever each parameter is given the same values in the same order. -/
theorem read_follows_grammar (t : Text) :
    (IsRefused t "cannot be empty".toList ↔ Text.Blank t) ∧
      (IsRefused t "format invalid".toList ↔ Text.IsWord t) ∧
      (Text.Blank t ∨ Text.IsWord t ∨ ∃ scheme rest, Text.IsParted t scheme rest) ∧
      ∀ scheme rest, Text.IsParted t scheme rest →
        (∀ v, IsRefused t ("invalid timestamp, ".toList ++ v) ↔
          (given .timestamp rest).find? (fun v => ¬Decimal.IsTime v) = some v) ∧
        ((∀ v ∈ given .timestamp rest, Decimal.IsTime v) →
          ∃ c, read t = .ok c ∧ c.Holds scheme (given · rest)) ∧
        ∀ t' rest', Text.IsParted t' scheme rest' →
          (Loosened (rest'.splitOn ',') (rest.splitOn ',') ∨
            ∀ p, given p rest' = given p rest) → read t' = read t := by
  have htime : ∀ v, IsRefused t ("invalid timestamp, ".toList ++ v) ↔
      read t = .error (.badTimestamp v) := fun v => @isRefused_detail_iff t (.badTimestamp v)
  refine ⟨(@isRefused_detail_iff t .empty).trans read_eq_empty_iff,
    (@isRefused_detail_iff t .noParameters).trans read_eq_noParameters_iff,
    Text.blank_or_isWord_or_isParted t, fun scheme rest hparted => ?_⟩
  have hread := read_of_isParted hparted
  refine ⟨fun v => ?_, fun htimes => ?_, fun t' rest' hparted' hsame => ?_⟩
  · rw [htime, read_eq_error_iff_of_isParted hparted]
    simp
  · exact ⟨_, hread.trans (settle_eq_ok_iff.mpr ⟨htimes, rfl⟩),
      holds_withLast scheme (given · rest)⟩
  · have hgiven : ∀ p, given p rest' = given p rest := hsame.elim given_eq_of_loosened id
    rw [hread, read_of_isParted hparted']
    simp only [hgiven]

/-- A text with more blanks, and with pieces that are names without a value or values of nothing. -/
theorem read_follows_grammar_of_loosened :
    Text.IsParted "S key-id=k,timestamp=+5".toList "S".toList "key-id=k,timestamp=+5".toList ∧
      Text.IsParted " S  key-id , key-id=k,key-id= , timestamp=+5 ,=".toList "S".toList
        " key-id , key-id=k,key-id= , timestamp=+5 ,=".toList ∧
      read " S  key-id , key-id=k,key-id= , timestamp=+5 ,=".toList =
        read "S key-id=k,timestamp=+5".toList ∧
      ∃ c, read "S key-id=k,timestamp=+5".toList = .ok c := by
  have hparted :
      Text.IsParted "S key-id=k,timestamp=+5".toList "S".toList "key-id=k,timestamp=+5".toList :=
    ⟨⟨[], ' ', rfl, by decide, by decide⟩, by decide, List.all_iff_forall_prop.mp (by decide),
      by decide⟩
  have hparted' : Text.IsParted " S  key-id , key-id=k,key-id= , timestamp=+5 ,=".toList "S".toList
      " key-id , key-id=k,key-id= , timestamp=+5 ,=".toList :=
    ⟨⟨[' '], ' ', rfl, by decide, by decide⟩, by decide, List.all_iff_forall_prop.mp (by decide),
      by decide⟩
  have hloosened : Loosened [" key-id ".toList, " key-id=k".toList, "key-id= ".toList,
      " timestamp=+5 ".toList, "=".toList] ["key-id=k".toList, "timestamp=+5".toList] :=
    .insert (fun p => by cases p <;> decide)
      (@Loosened.pad [' '] "key-id=k".toList [] _ _ (by decide) (by decide)
        (.insert (fun p => by cases p <;> decide)
          (@Loosened.pad [' '] "timestamp=+5".toList [' '] _ _ (by decide) (by decide)
            (.insert (fun p => by cases p <;> decide) .nil))))
  have hgrammar := (read_follows_grammar "S key-id=k,timestamp=+5".toList).2.2.2 _ _ hparted
  obtain ⟨c, hc, -⟩ := hgrammar.2.1 (by decide)
  exact ⟨hparted, hparted', hgrammar.2.2 _ _ hparted' (Or.inl hloosened), c, hc⟩

end Credentials

end Countersign
