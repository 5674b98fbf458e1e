import Countersign.Keys.CommaList
import Countersign.Keys.Properties
import Countersign.Proofs.Keys.Names
import Countersign.Proofs.Steps
import Countersign.Proofs.Text.Edges
import Mathlib.Data.Bool.AllAny

/-!
# What an entry and a line say

An entry of a comma list is read from the two sides of its first `=`
(`Countersign.KeyRing.commaEntry_trim`). A line of a properties text may be many more things. The
reader goes through it from left to right: it trims it, looks at its first character, cuts it, trims
both parts and compares the first of them. This file says without any of that what a line is about.

* A line *assigns* a value to a name (`Countersign.KeyBook.Assigns`) if it has a separator, `=` or
  `:`, and does not begin as a comment does. Name and value are what stands on the two sides of the
  first separator, without the blanks around them, so there is one of each at most
  (`Countersign.KeyBook.Assigns.eq`).
* A *key line* (`Countersign.KeyBook.IsKeyLine`) assigns to a name that begins with
  `partnerauth.keys.`, other than that of the default; a *default line*
  (`Countersign.KeyBook.IsDefaultLine`) to the name of the default.
* What is behind `partnerauth.keys.` in a key line, and the value of a default line, is to be the
  text of a proper name. If it is, the line says something (`Countersign.KeyBook.Says`), and if not,
  it is refused (`Countersign.KeyBook.Misnames`). No other line counts.

So of all lines there are three kinds (`Countersign.KeyBook.says_or_misnames_or_passed`), and a text
is refused for the first of its lines that misnames a key.
-/

namespace Countersign

/-! ### Entries of a comma list -/

/-- An entry is cut at its first `=`. -/
theorem KeyRing.commaEntry_trim {front : Text} (back : Text)
    (hfree : ∀ x ∈ front, (x == '=') = false) :
    commaEntry (Text.trim (front ++ '=' :: back)) =
      match KeyName.ofText? (Text.trim front) with
      | none => .error (.invalidEntry (Text.trim front))
      | some n => .ok (n, Utf8.encode (Text.trim back)) := by
  rw [commaEntry, Text.cut_trim back hfree (beq_self_eq_true '=') (by decide)]
  cases hname : KeyName.ofText? (Text.trim front) with
  | none => simp only [Text.trim_trimStart, hname]
  | some n => simp only [Text.trim_trimStart, Text.trim_trimEnd, hname]

namespace KeyBook

/-! ### Lines that assign -/

/-- The characters between a name and its value. -/
def isSeparator (c : Char) : Bool := c == '=' || c == ':'

/-- A line whose first character, but for blanks, is a `#` or a `!`. -/
def IsComment (line : Text) : Prop :=
  ∃ before c after, line = before ++ c :: after ∧ Text.Blank before ∧ (c = '#' ∨ c = '!')

/-- A line that gives a name a value. -/
structure Assigns (line name value : Text) : Prop where
  not_comment : ¬IsComment line
  split : ∃ front sep back, line = front ++ sep :: back ∧ isSeparator sep = true ∧
    (∀ c ∈ front, isSeparator c = false) ∧ Text.trim front = name ∧ Text.trim back = value

theorem isBlank_of_isSeparator {c : Char} (h : isSeparator c = true) : Text.isBlank c = false := by
  rcases Bool.or_eq_true _ _ ▸ h with h | h
  · obtain rfl := beq_iff_eq.mp h
    decide
  · obtain rfl := beq_iff_eq.mp h
    decide

theorem isComment_iff {line : Text} :
    IsComment line ↔ ∃ c r, Text.trim line = c :: r ∧ (c = '#' ∨ c = '!') := by
  constructor
  · rintro ⟨before, c, after, rfl, hbefore, hc⟩
    have hblank : Text.isBlank c = false := by rcases hc with rfl | rfl <;> decide
    rw [Text.trim_append_cons before after hblank, Text.trimStart_eq_nil_iff.mpr hbefore]
    exact ⟨c, _, rfl, hc⟩
  · rintro ⟨c, r, htrim, hc⟩
    obtain ⟨before, after, hline, hbefore, -⟩ := Text.exists_eq_trim line
    refine ⟨before, c, r ++ after, ?_, hbefore, hc⟩
    rw [hline, htrim]
    simp

/-- **A line assigns one value to one name.** -/
theorem Assigns.eq {line name name' value value' : Text} (h : Assigns line name value)
    (h' : Assigns line name' value') : name = name' ∧ value = value' := by
  obtain ⟨-, front, sep, back, rfl, hsep, hfree, rfl, rfl⟩ := h
  obtain ⟨-, front', sep', back', hline, hsep', hfree', rfl, rfl⟩ := h'
  obtain ⟨rfl, -, rfl⟩ := Text.append_cons_inj hfree hfree' hsep hsep' hline
  exact ⟨rfl, rfl⟩

/-- A line that is put together from a name and a value, with blanks around both. -/
theorem assigns_of_isPadded {front back name value : Text} {sep : Char}
    (hsep : isSeparator sep = true) (hfront : Text.IsPadded front name)
    (hback : Text.IsPadded back value) (hname : Text.IsTrimmed name)
    (hvalue : Text.IsTrimmed value) (hfree : ∀ c ∈ name, isSeparator c = false)
    (hmark : ∃ c r, name = c :: r ∧ c ≠ '#' ∧ c ≠ '!') :
    Assigns (front ++ sep :: back) name value := by
  refine ⟨?_, front, sep, back, rfl, hsep,
    hfront.forall_eq_false (fun _ => isBlank_of_isSeparator) hfree,
    Text.trim_eq_iff.mpr ⟨hname, hfront⟩, Text.trim_eq_iff.mpr ⟨hvalue, hback⟩⟩
  obtain ⟨before, after, rfl, hbefore, -⟩ := hfront
  obtain ⟨c, r, rfl, hhash, hbang⟩ := hmark
  have hline : Text.trim (before ++ c :: r ++ after ++ sep :: back) =
      c :: Text.trimEnd (r ++ after ++ sep :: back) := by
    rw [List.append_assoc, List.append_assoc, List.cons_append,
      Text.trim_append_cons before _ (hname.first c rfl), Text.trimStart_eq_nil_iff.mpr hbefore,
      List.nil_append, List.append_assoc]
  rw [isComment_iff, hline]
  rintro ⟨x, y, hxy, rfl | rfl⟩
  · exact hhash (List.cons.inj hxy).1
  · exact hbang (List.cons.inj hxy).1

/-- Every line assigns, or is passed over because it is blank, a comment, or has no separator. -/
theorem assigns_or_passed (line : Text) :
    (∃ name value, Assigns line name value) ∨ IsComment line ∨
      ∀ c ∈ line, isSeparator c = false := by
  by_cases hcomment : IsComment line
  · exact Or.inr (Or.inl hcomment)
  cases hcut : Text.cut isSeparator line with
  | none => exact Or.inr (Or.inr (Text.cut_eq_none_iff.mp hcut))
  | some parts =>
    obtain ⟨c, hc, hline, hfree⟩ := Text.eq_of_cut hcut
    exact Or.inl ⟨_, _, hcomment, parts.1, c, parts.2, hline, hc, hfree, rfl, rfl⟩

/-! ### What the reader makes of a line -/

/-- What is read from a line that assigns a value to a name; `line` is what is reported. -/
def assigned (line name value : Text) : Except KeyFault (Option Entry) :=
  if name = defaultName then
    match KeyName.ofText? value with
    | some n => .ok (some (.default n))
    | none => .error (.invalidEntry line)
  else if keyPrefix.isPrefixOf name then
    match KeyName.ofText? (name.drop keyPrefix.length) with
    | some n => .ok (some (.key n (Utf8.encode value)))
    | none => .error (.invalidEntry name)
  else .ok none

/-- What is read from a line with the blanks around it. -/
def readLine (line : Text) : Except KeyFault (Option Entry) := entry? (Text.trim line)

/-- A text is read line by line. -/
theorem entries_eq (t : Text) :
    entries t = ((t.splitOn '\n').mapM readLine).map fun es => es.filterMap id := by
  rw [entries, List.mapM_map]
  rfl

theorem readLine_of_isComment {line : Text} (h : IsComment line) : readLine line = .ok none := by
  obtain ⟨c, r, htrim, rfl | rfl⟩ := isComment_iff.mp h
  · rw [readLine, htrim, entry?]
  · rw [readLine, htrim, entry?]

/-- A line that is no comment is cut at its first separator. -/
theorem readLine_of_not_isComment {line : Text} (h : ¬IsComment line) :
    readLine line =
      match Text.cut isSeparator (Text.trim line) with
      | none => .ok none
      | some (name, value) => assigned (Text.trim line) (Text.trim name) (Text.trim value) := by
  rw [readLine]
  unfold entry?
  -- The reader goes by the first character, and it marks no comment here.
  split
  next hempty =>
    rw [hempty]
    rfl
  next r hhash => exact absurd (isComment_iff.mpr ⟨'#', r, hhash, Or.inl rfl⟩) h
  next r hbang => exact absurd (isComment_iff.mpr ⟨'!', r, hbang, Or.inr rfl⟩) h
  next => rfl

/-- **A line that assigns** is read as what it assigns. -/
theorem readLine_of_assigns {line name value : Text} (h : Assigns line name value) :
    readLine line = assigned (Text.trim line) name value := by
  obtain ⟨hcomment, front, sep, back, rfl, hsep, hfree, rfl, rfl⟩ := h
  rw [readLine_of_not_isComment hcomment,
    Text.cut_trim back hfree hsep (isBlank_of_isSeparator hsep)]
  simp only [Text.trim_trimStart, Text.trim_trimEnd]

/-- A line without a separator is passed over. -/
theorem readLine_of_forall {line : Text} (h : ∀ c ∈ line, isSeparator c = false) :
    readLine line = .ok none := by
  by_cases hcomment : IsComment line
  · exact readLine_of_isComment hcomment
  · rw [readLine_of_not_isComment hcomment,
      Text.cut_eq_none_iff.mpr fun c hc => h c (Text.trim_subset line hc)]

/-! ### What lines say -/

/-- A line with a value for a name that begins as the names of keys do; `id` is the rest. -/
def IsKeyLine (line id value : Text) : Prop :=
  Assigns line (keyPrefix ++ id) value ∧ keyPrefix ++ id ≠ defaultName

/-- A line that names the default; `id` is what it gives as its name. -/
def IsDefaultLine (line id : Text) : Prop := Assigns line defaultName id

/-- What a line says. -/
inductive Says (line : Text) : Entry → Prop
  | key {n : KeyName} {value : Text} (proper : n.IsProper) (h : IsKeyLine line n.text value) :
      Says line (.key n (Utf8.encode value))
  | default {n : KeyName} (proper : n.IsProper) (h : IsDefaultLine line n.text) :
      Says line (.default n)

/-- A line that is about a key and gives no proper name, and what is reported: of a key line its
name, and of a default line the line. -/
inductive Misnames (line : Text) : Text → Prop
  | key {id value : Text} (h : IsKeyLine line id value)
      (improper : ∀ n : KeyName, n.IsProper → id ≠ n.text) : Misnames line (keyPrefix ++ id)
  | default {id : Text} (h : IsDefaultLine line id)
      (improper : ∀ n : KeyName, n.IsProper → id ≠ n.text) : Misnames line (Text.trim line)

theorem readLine_of_isKeyLine {line id value : Text} (h : IsKeyLine line id value) :
    readLine line =
      match KeyName.ofText? id with
      | some n => .ok (some (.key n (Utf8.encode value)))
      | none => .error (.invalidEntry (keyPrefix ++ id)) := by
  have hprefix : keyPrefix.isPrefixOf (keyPrefix ++ id) = true :=
    List.isPrefixOf_iff_prefix.mpr (List.prefix_append keyPrefix id)
  rw [readLine_of_assigns h.1, assigned, if_neg h.2, if_pos hprefix, List.drop_left]

theorem readLine_of_isDefaultLine {line id : Text} (h : IsDefaultLine line id) :
    readLine line =
      match KeyName.ofText? id with
      | some n => .ok (some (.default n))
      | none => .error (.invalidEntry (Text.trim line)) := by
  rw [readLine_of_assigns h, assigned, if_pos rfl]

/-- A line that is neither a key line nor a default line is passed over. -/
theorem readLine_of_passed {line : Text} (hkey : ∀ id value, ¬IsKeyLine line id value)
    (hdefault : ∀ id, ¬IsDefaultLine line id) : readLine line = .ok none := by
  rcases assigns_or_passed line with ⟨name, value, h⟩ | hcomment | hfree
  · have hname : name ≠ defaultName := by
      rintro rfl
      exact hdefault value h
    rw [readLine_of_assigns h, assigned, if_neg hname]
    refine if_neg fun hprefix => ?_
    obtain ⟨id, rfl⟩ := List.isPrefixOf_iff_prefix.mp hprefix
    exact hkey id value ⟨h, hname⟩
  · exact readLine_of_isComment hcomment
  · exact readLine_of_forall hfree

theorem Says.readLine_eq {line : Text} {e : Entry} (h : Says line e) :
    readLine line = .ok (some e) := by
  cases h with
  | key proper h =>
    rw [readLine_of_isKeyLine h, KeyName.ofText?_eq_some_iff.mpr ⟨proper, rfl⟩]
  | default proper h =>
    rw [readLine_of_isDefaultLine h, KeyName.ofText?_eq_some_iff.mpr ⟨proper, rfl⟩]

theorem Misnames.readLine_eq {line shown : Text} (h : Misnames line shown) :
    readLine line = .error (.invalidEntry shown) := by
  cases h with
  | key h improper => rw [readLine_of_isKeyLine h, KeyName.ofText?_eq_none_iff.mpr improper]
  | default h improper =>
    rw [readLine_of_isDefaultLine h, KeyName.ofText?_eq_none_iff.mpr improper]

/-- **The kinds of lines**: a line says something, or is refused, or is not about keys. -/
theorem says_or_misnames_or_passed (line : Text) :
    (∃ e, Says line e) ∨ (∃ shown, Misnames line shown) ∨
      (∀ id value, ¬IsKeyLine line id value) ∧ ∀ id, ¬IsDefaultLine line id := by
  have hproper (id : Text) : (∃ n : KeyName, n.IsProper ∧ id = n.text) ∨
      ∀ n : KeyName, n.IsProper → id ≠ n.text := by
    by_cases h : ∃ n : KeyName, n.IsProper ∧ id = n.text
    · exact Or.inl h
    · exact Or.inr fun n hn he => h ⟨n, hn, he⟩
  by_cases hkey : ∃ id value, IsKeyLine line id value
  · obtain ⟨id, value, h⟩ := hkey
    rcases hproper id with ⟨n, hn, rfl⟩ | himproper
    · exact Or.inl ⟨_, .key hn h⟩
    · exact Or.inr (Or.inl ⟨_, .key h himproper⟩)
  by_cases hdefault : ∃ id, IsDefaultLine line id
  · obtain ⟨id, h⟩ := hdefault
    rcases hproper id with ⟨n, hn, rfl⟩ | himproper
    · exact Or.inl ⟨_, .default hn h⟩
    · exact Or.inr (Or.inl ⟨_, .default h himproper⟩)
  · exact Or.inr (Or.inr ⟨fun id value h => hkey ⟨id, value, h⟩, fun id h => hdefault ⟨id, h⟩⟩)

/-! ### What a text says -/

/-- What a line says, if it says anything. -/
def said? (line : Text) : Option Entry :=
  match readLine line with
  | .ok e => e
  | .error _ => none

/-- No line of a text is refused. -/
def IsSound (lines : List Text) : Prop := ∀ line ∈ lines, ∀ shown, ¬Misnames line shown

theorem readLine_of_not_misnames {line : Text} (h : ∀ shown, ¬Misnames line shown) :
    readLine line = .ok (said? line) := by
  rw [said?]
  rcases says_or_misnames_or_passed line with ⟨e, he⟩ | ⟨shown, hshown⟩ | ⟨hkey, hdefault⟩
  · rw [he.readLine_eq]
  · exact absurd hshown (h shown)
  · rw [readLine_of_passed hkey hdefault]

theorem said?_eq_some_iff {line : Text} {e : Entry} : said? line = some e ↔ Says line e := by
  constructor
  · intro h
    rw [said?] at h
    rcases says_or_misnames_or_passed line with ⟨e', he'⟩ | ⟨shown, hshown⟩ | ⟨hkey, hdefault⟩
    · rw [he'.readLine_eq] at h
      exact Option.some.inj h ▸ he'
    · rw [hshown.readLine_eq] at h
      exact absurd h (by simp)
    · rw [readLine_of_passed hkey hdefault] at h
      exact absurd h (by simp)
  · intro h
    rw [said?, h.readLine_eq]

theorem not_misnames_of_eq_ok {line : Text} {e : Option Entry}
    (h : readLine line = .ok e) (shown : Text) : ¬Misnames line shown := fun hmis =>
  absurd (hmis.readLine_eq.symm.trans h) (by simp)

/-- The first line of a text that is refused, and what is reported of it. -/
def IsFirstMisnamed (lines : List Text) (shown : Text) : Prop :=
  ∃ before line after, lines = before ++ line :: after ∧ IsSound before ∧ Misnames line shown

theorem isSound_or_exists_isFirstMisnamed (lines : List Text) :
    IsSound lines ∨ ∃ shown, IsFirstMisnamed lines shown := by
  induction lines with
  | nil => exact Or.inl fun line hline => absurd hline List.not_mem_nil
  | cons line lines ih =>
    by_cases hline : ∃ shown, Misnames line shown
    · obtain ⟨shown, hshown⟩ := hline
      exact Or.inr ⟨shown, [], line, lines, rfl, fun l hl => absurd hl List.not_mem_nil, hshown⟩
    have hsound : ∀ shown, ¬Misnames line shown := fun shown h => hline ⟨shown, h⟩
    rcases ih with hall | ⟨shown, before, l, after, rfl, hbefore, hl⟩
    · exact Or.inl (List.forall_mem_cons.mpr ⟨hsound, hall⟩)
    · exact Or.inr ⟨shown, line :: before, l, after, rfl,
        List.forall_mem_cons.mpr ⟨hsound, hbefore⟩, hl⟩

/-- **If no line is refused**, the entries of a text are what its lines say. -/
theorem entries_of_isSound {t : Text} (h : IsSound (t.splitOn '\n')) :
    entries t = .ok ((t.splitOn '\n').filterMap said?) := by
  have hread : ∀ line ∈ t.splitOn '\n', readLine line = .ok (said? line) :=
    fun line hline => readLine_of_not_misnames (h line hline)
  rw [entries_eq, mapM_eq_ok hread]
  exact congrArg Except.ok (List.filterMap_map ..)

/-- **The first line that is refused** decides. -/
theorem entries_of_isFirstMisnamed {t shown : Text}
    (h : IsFirstMisnamed (t.splitOn '\n') shown) :
    entries t = .error (.invalidEntry shown) := by
  obtain ⟨before, line, after, hlines, hbefore, hline⟩ := h
  have hread : ∀ l ∈ before, ∃ e, readLine l = .ok e := fun l hl =>
    ⟨said? l, readLine_of_not_misnames (hbefore l hl)⟩
  rw [entries_eq, hlines, mapM_eq_error hread hline.readLine_eq]
  rfl

end KeyBook

end Countersign
