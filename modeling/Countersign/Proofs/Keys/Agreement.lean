import Countersign.Proofs.Keys.Defaults

/-!
# One collection of keys, from any source

The same entries can be given in three ways: as they are, as a comma list, and as a properties text.
Each of the two texts can be written in many ways. Blanks may stand around names and secrets, and
what means nothing may stand between the entries; a line takes either separator. None of this is
seen: from all of them there comes the same ring (`Countersign.sources_agree`).

* An entry (`Countersign.KeyEntry`) is one that can be written in both texts. The parts of its name
  have none of the characters in them that one of the texts gives a meaning to, and its secret only
  those that mean nothing behind a separator: an `=`, a `:` or a `#` in a secret does no harm.
* An entry is written (`Countersign.KeyEntry.IsWritten`) with its name in front of a separator and
  its secret behind it. In a properties text the name has a label in front of it.
* A text holds entries (`Countersign.Interspersed`) if their written forms are among its pieces, in
  order, and all other pieces mean nothing. In a comma list (`Countersign.IsCommaList`) these are
  blank; in a properties text (`Countersign.IsPropertiesText`) they give no value to a name with the
  label, as blank lines, comments and lines of other names do not.
-/

namespace Countersign

/-- A list of what holds of the items, in order, with fillers in between and at both ends. -/
inductive Interspersed {α β : Type} (Holds : α → β → Prop) (Filler : β → Prop) :
    List α → List β → Prop
  | nil : Interspersed Holds Filler [] []
  | filler {y : β} {xs : List α} {ys : List β} (hy : Filler y)
      (rest : Interspersed Holds Filler xs ys) : Interspersed Holds Filler xs (y :: ys)
  | item {x : α} {y : β} {xs : List α} {ys : List β} (hxy : Holds x y)
      (rest : Interspersed Holds Filler xs ys) : Interspersed Holds Filler (x :: xs) (y :: ys)

/-! ### Entries and how they are written -/

/-- A key with its secret, none of them with a character that is read otherwise. -/
structure KeyEntry where
  name : KeyName
  secret : Text
  parts_ne_nil : name.partner ≠ [] ∧ name.key ≠ []
  parts_isTrimmed : name.partner.IsTrimmed ∧ name.key.IsTrimmed
  parts_free : ∀ c ∈ name.partner ++ name.key, c ∉ ['.', ',', '=', ':', '\n']
  secret_isTrimmed : secret.IsTrimmed
  secret_free : ∀ c ∈ secret, c ∉ [',', '\n']

namespace KeyEntry

/-- The entry as rings hold it. -/
def pair (e : KeyEntry) : KeyName × Bytes := (e.name, Utf8.encode e.secret)

/-- A label and the name in front of a separator and the secret behind it, with blanks around
both. -/
def IsWritten (label : Text) (isSep : Char → Bool) (e : KeyEntry) (written : Text) : Prop :=
  ∃ front sep back, written = front ++ sep :: back ∧ isSep sep = true ∧
    Text.IsPadded front (label ++ e.name.text) ∧ Text.IsPadded back e.secret

variable (e : KeyEntry)

theorem isProper : e.name.IsProper where
  partner_ne_nil := e.parts_ne_nil.1
  key_ne_nil := e.parts_ne_nil.2
  partner_free h := e.parts_free '.' (List.mem_append_left _ h) (by decide)
  key_free h := e.parts_free '.' (List.mem_append_right _ h) (by decide)

theorem isTrimmed_text : Text.IsTrimmed e.name.text := by
  have hpoint : Text.IsTrimmed ['.'] := by decide
  exact e.parts_isTrimmed.1.append (hpoint.append e.parts_isTrimmed.2)

/-- No separator occurs in the name. -/
theorem isSeparator_eq_false {c : Char} (hc : c ∈ e.name.text) :
    KeyBook.isSeparator c = false := by
  have hcases : c = '.' ∨ c ∈ e.name.partner ++ e.name.key := by
    rw [KeyName.text, List.mem_append, List.mem_cons] at hc
    rw [List.mem_append]
    tauto
  rcases hcases with rfl | hpart
  · decide
  · have hfree := e.parts_free c hpart
    simp only [List.mem_cons, not_or] at hfree
    simp [KeyBook.isSeparator, hfree.2.2]

end KeyEntry

/-! ### Comma lists -/

/-- A comma list that holds the entries. -/
def IsCommaList (es : List KeyEntry) (t : Text) : Prop :=
  Interspersed (KeyEntry.IsWritten [] (· == '=')) Text.Blank es (t.splitOn ',')

namespace KeyRing

/-- **An entry is read back.** -/
theorem commaEntry_trim_of_isWritten {e : KeyEntry} {piece : Text}
    (h : e.IsWritten [] (· == '=') piece) : commaEntry (Text.trim piece) = .ok e.pair := by
  obtain ⟨front, sep, back, rfl, hsep, hfront, hback⟩ := h
  obtain rfl := beq_iff_eq.mp hsep
  have hfree : ∀ c ∈ front, (c == '=') = false := by
    refine hfront.forall_eq_false (fun c hc => ?_) fun c hc => ?_
    · obtain rfl := beq_iff_eq.mp hc
      decide
    · exact (Bool.or_eq_false_iff.mp (e.isSeparator_eq_false hc)).1
  have hname : KeyName.ofText? (Text.trim front) = some e.name := by
    rw [KeyName.ofText?_eq_some_iff]
    exact ⟨e.isProper, Text.trim_eq_iff.mpr ⟨e.isTrimmed_text, hfront⟩⟩
  rw [commaEntry_trim back hfree, hname, Text.trim_eq_iff.mpr ⟨e.secret_isTrimmed, hback⟩]
  rfl

theorem not_blank_of_isWritten {e : KeyEntry} {piece : Text}
    (h : e.IsWritten [] (· == '=') piece) : ¬Text.Blank piece := by
  obtain ⟨front, sep, back, rfl, hsep, -⟩ := h
  obtain rfl := beq_iff_eq.mp hsep
  exact Text.not_blank_of_mem (List.mem_append_right front List.mem_cons_self) (by decide)

/-- The pieces that are not blank are read one after the other. -/
theorem mapM_commaEntry {es : List KeyEntry} {pieces : List Text}
    (h : Interspersed (KeyEntry.IsWritten [] (· == '=')) Text.Blank es pieces) :
    ((pieces.map Text.trim).filter fun p => !p.isEmpty).mapM commaEntry =
      .ok (es.map KeyEntry.pair) := by
  induction h with
  | nil => rfl
  | filler hblank _ ih =>
    rw [List.map_cons, Text.trim_eq_nil_iff.mpr hblank]
    exact ih
  | @item e piece es pieces hwritten _ ih =>
    have hkept : (!(Text.trim piece).isEmpty) = true := by
      simpa using not_blank_of_isWritten hwritten
    rw [List.map_cons, List.filter_cons, if_pos hkept,
      mapM_cons_of_ok (commaEntry_trim_of_isWritten hwritten), ih]
    rfl

/-- **A comma list that holds entries** is read as the ring of these. -/
theorem ofCommaList_of_isCommaList {es : List KeyEntry} {t : Text} (hne : es ≠ [])
    (h : IsCommaList es t) : ofCommaList t = .ok (ofList (es.map KeyEntry.pair)) := by
  obtain ⟨e, es, rfl⟩ := List.exists_cons_of_ne_nil hne
  rw [ofCommaList, Text.commaPieces, mapM_commaEntry h]
  rfl

end KeyRing

/-! ### Properties texts -/

namespace KeyBook

/-- A line that gives no value to a name with the label of keys. -/
def IsAside (line : Text) : Prop :=
  ∀ name value, Assigns line name value → ¬keyPrefix <+: name

end KeyBook

/-- A properties text that holds the entries. -/
def IsPropertiesText (es : List KeyEntry) (t : Text) : Prop :=
  Interspersed (KeyEntry.IsWritten KeyBook.keyPrefix KeyBook.isSeparator) KeyBook.IsAside es
    (t.splitOn '\n')

namespace KeyBook

theorem isAside_of_blank {line : Text} (h : Text.Blank line) : IsAside line := by
  rintro _ _ ⟨-, front, sep, back, rfl, hsep, -⟩
  exact absurd h (Text.not_blank_of_mem (by simp) (isBlank_of_isSeparator hsep))

theorem isAside_of_isComment {line : Text} (h : IsComment line) : IsAside line :=
  fun _ _ hassigns => absurd h hassigns.not_comment

theorem isAside_of_assigns {line name value : Text} (h : Assigns line name value)
    (hname : ¬keyPrefix <+: name) : IsAside line :=
  fun _ _ hassigns => (h.eq hassigns).1 ▸ hname

theorem readLine_of_isAside {line : Text} (h : IsAside line) :
    readLine line = .ok none := by
  refine readLine_of_passed (fun id value hkey => ?_) fun id hdefault => ?_
  · exact h _ _ hkey.1 (List.prefix_append keyPrefix id)
  · exact h _ _ hdefault (by decide)

/-- **An entry is read back.** -/
theorem says_of_isWritten {e : KeyEntry} {line : Text}
    (h : e.IsWritten keyPrefix isSeparator line) :
    Says line (.key e.name (Utf8.encode e.secret)) := by
  obtain ⟨front, sep, back, rfl, hsep, hfront, hback⟩ := h
  have hlabel : Text.IsTrimmed keyPrefix := by decide
  have hlabelFree : ∀ c ∈ keyPrefix, isSeparator c = false :=
    List.all_iff_forall_prop.mp (by decide)
  have hfree : ∀ c ∈ keyPrefix ++ e.name.text, isSeparator c = false := by
    intro c hc
    rcases List.mem_append.mp hc with hc | hc
    · exact hlabelFree c hc
    · exact e.isSeparator_eq_false hc
  refine .key e.isProper ⟨?_, fun hdefault => ?_⟩
  · exact assigns_of_isPadded hsep hfront hback (hlabel.append e.isTrimmed_text)
      e.secret_isTrimmed hfree ⟨'p', _, rfl, by decide⟩
  · -- What follows the label in the name of the default has no point in it.
    have hsplit : defaultName = keyPrefix ++ "default".toList := by decide
    have hrest : e.name.text = "default".toList :=
      List.append_cancel_left (hdefault.trans hsplit)
    have hpoint : '.' ∈ e.name.text := by simp [KeyName.text]
    exact absurd (hrest ▸ hpoint) (by decide)

/-- The entries are what the lines say, and no line is refused. -/
theorem filterMap_said? {es : List KeyEntry} {lines : List Text}
    (h : Interspersed (KeyEntry.IsWritten keyPrefix isSeparator) IsAside es lines) :
    IsSound lines ∧
      lines.filterMap said? = es.map fun e => .key e.name (Utf8.encode e.secret) := by
  induction h with
  | nil => exact ⟨fun _ h => absurd h List.not_mem_nil, rfl⟩
  | @filler line es lines haside _ ih =>
    have hread := readLine_of_isAside haside
    have hsaid : said? line = none := by rw [said?, hread]
    exact ⟨List.forall_mem_cons.mpr ⟨not_misnames_of_eq_ok hread, ih.1⟩,
      (List.filterMap_cons_none hsaid).trans ih.2⟩
  | @item e line es lines hwritten _ ih =>
    have hsays := says_of_isWritten hwritten
    refine ⟨List.forall_mem_cons.mpr
      ⟨not_misnames_of_eq_ok hsays.readLine_eq, ih.1⟩, ?_⟩
    rw [List.filterMap_cons_some (said?_eq_some_iff.mpr hsays), ih.2, List.map_cons]

/-- **A properties text that holds entries** is read as the ring of these. -/
theorem ofProperties_of_isPropertiesText {es : List KeyEntry} {t : Text} (hne : es ≠ [])
    (h : IsPropertiesText es t) :
    ∃ b, ofProperties t = .ok b ∧ b.ring = KeyRing.ofList (es.map KeyEntry.pair) := by
  obtain ⟨hsound, hsaid⟩ := filterMap_said? h
  have hring : ringOf (es.map fun e => .key e.name (Utf8.encode e.secret)) =
      KeyRing.ofList (es.map KeyEntry.pair) := by
    rw [ringOf, List.filterMap_map]
    exact congrArg KeyRing.ofList (congrFun List.filterMap_eq_map es)
  have hdefault : namedDefault? (es.map fun e => .key e.name (Utf8.encode e.secret)) = none := by
    rw [namedDefault?, List.filterMap_map]
    simp
  rw [ofProperties, entries_of_isSound hsound, ok_bind, hsaid, hring, hdefault]
  rcases KeyRing.least?_cases (KeyRing.ofList (es.map KeyEntry.pair)) with
    ⟨hempty, -⟩ | ⟨n, hleast, -⟩
  · obtain ⟨e, es, rfl⟩ := List.exists_cons_of_ne_nil hne
    have hmem : e.name ∈ (KeyRing.ofList ((e :: es).map KeyEntry.pair)).names :=
      KeyRing.mem_names_ofList.mpr (by simp [KeyEntry.pair])
    exact absurd (hempty ▸ hmem) List.not_mem_nil
  · simp only [hleast]
    exact ⟨_, rfl, rfl⟩

end KeyBook

/-! ### The sources agree -/

/-- **The sources of keys agree.** For all entries, of which there is one at least, every comma list
and every properties text that hold them are read, and as the very ring that the entries make up by
themselves. It has the secret of a name from the last entry of that name, in UTF-8, and no other
secrets; there are as many keys in it as the entries have names. -/
theorem sources_agree (es : List KeyEntry) (hne : es ≠ []) (list props : Text)
    (hlist : IsCommaList es list) (hprops : IsPropertiesText es props) :
    let given := KeyRing.ofList (es.map KeyEntry.pair)
    KeyRing.ofCommaList list = .ok given ∧
      (∃ b, KeyBook.ofProperties props = .ok b ∧ b.ring = given) ∧
      (∀ n, given.find? n =
        ((es.filter fun e => e.name = n).getLast?).map fun e => Utf8.encode e.secret) ∧
      given.size = (es.map KeyEntry.name).toFinset.card := by
  refine ⟨KeyRing.ofCommaList_of_isCommaList hne hlist,
    KeyBook.ofProperties_of_isPropertiesText hne hprops, fun n => ?_, ?_⟩
  · rw [KeyRing.find?_ofList_eq, List.filter_map, List.getLast?_map, Option.map_map]
    rfl
  · rw [KeyRing.size_ofList, List.map_map]
    rfl

/-- Three entries of two names, one of them with `default` as its partner and given twice. -/
theorem sources_agree_of_three_entries :
    let first : KeyEntry := ⟨⟨"default".toList, "1".toList⟩, "a=b:#c.d".toList,
      by decide, by decide, List.all_iff_forall_prop.mp (by decide), by decide,
      List.all_iff_forall_prop.mp (by decide)⟩
    let second : KeyEntry := ⟨⟨"bob".toList, "1".toList⟩, "k".toList,
      by decide, by decide, List.all_iff_forall_prop.mp (by decide), by decide,
      List.all_iff_forall_prop.mp (by decide)⟩
    let third : KeyEntry := ⟨⟨"default".toList, "1".toList⟩, [],
      by decide, by decide, List.all_iff_forall_prop.mp (by decide), by decide,
      List.all_iff_forall_prop.mp (by decide)⟩
    let given := KeyRing.ofList ([first, second, third].map KeyEntry.pair)
    KeyRing.ofCommaList " ,default.1 =a=b:#c.d,\nbob.1= k ,default.1=".toList = .ok given ∧
      (∃ b, KeyBook.ofProperties
          ("# a=b\n partnerauth.keys.default.1: a=b:#c.d\nhost=a\n\n".toList ++
            "partnerauth.keys.bob.1=k\npartnerauth.keys.default.1=".toList) = .ok b ∧
        b.ring = given) ∧
      given.find? ⟨"default".toList, "1".toList⟩ = some [] ∧
      given.find? ⟨"default".toList, "2".toList⟩ = none ∧ given.size = 2 := by
  intro first second third given
  have hlist : IsCommaList [first, second, third]
      " ,default.1 =a=b:#c.d,\nbob.1= k ,default.1=".toList := by
    have hsplit : " ,default.1 =a=b:#c.d,\nbob.1= k ,default.1=".toList.splitOn ',' =
        [[' '], "default.1 =a=b:#c.d".toList, "\nbob.1= k ".toList, "default.1=".toList] := by
      decide
    rw [IsCommaList, hsplit]
    refine .filler (by decide) (.item ?_ (.item ?_ (.item ?_ .nil)))
    · exact ⟨"default.1 ".toList, '=', "a=b:#c.d".toList, by decide, rfl,
        ⟨[], [' '], by decide⟩, ⟨[], [], by decide⟩⟩
    · exact ⟨"\nbob.1".toList, '=', " k ".toList, by decide, rfl,
        ⟨['\n'], [], by decide⟩, ⟨[' '], [' '], by decide⟩⟩
    · exact ⟨"default.1".toList, '=', [], by decide, rfl,
        ⟨[], [], by decide⟩, ⟨[], [], by decide⟩⟩
  have hprops : IsPropertiesText [first, second, third]
      ("# a=b\n partnerauth.keys.default.1: a=b:#c.d\nhost=a\n\n".toList ++
        "partnerauth.keys.bob.1=k\npartnerauth.keys.default.1=".toList) := by
    have hsplit : ("# a=b\n partnerauth.keys.default.1: a=b:#c.d\nhost=a\n\n".toList ++
          "partnerauth.keys.bob.1=k\npartnerauth.keys.default.1=".toList).splitOn '\n' =
        ["# a=b".toList, " partnerauth.keys.default.1: a=b:#c.d".toList, "host=a".toList, [],
          "partnerauth.keys.bob.1=k".toList, "partnerauth.keys.default.1=".toList] := by
      decide
    have hhost : KeyBook.Assigns ("host".toList ++ '=' :: "a".toList) "host".toList "a".toList :=
      KeyBook.assigns_of_isPadded (by decide) ⟨[], [], by decide⟩ ⟨[], [], by decide⟩
        (by decide) (by decide) (List.all_iff_forall_prop.mp (by decide))
        ⟨'h', _, rfl, by decide⟩
    rw [IsPropertiesText, hsplit]
    refine .filler (KeyBook.isAside_of_isComment ⟨[], '#', " a=b".toList, by decide⟩) <|
      .item ?_ <| .filler (KeyBook.isAside_of_assigns hhost (by decide)) <|
      .filler (KeyBook.isAside_of_blank (by decide)) <| .item ?_ <| .item ?_ .nil
    · exact ⟨" partnerauth.keys.default.1".toList, ':', " a=b:#c.d".toList, by decide, rfl,
        ⟨[' '], [], by decide⟩, ⟨[' '], [], by decide⟩⟩
    · exact ⟨"partnerauth.keys.bob.1".toList, '=', "k".toList, by decide, rfl,
        ⟨[], [], by decide⟩, ⟨[], [], by decide⟩⟩
    · exact ⟨"partnerauth.keys.default.1".toList, '=', [], by decide, rfl,
        ⟨[], [], by decide⟩, ⟨[], [], by decide⟩⟩
  obtain ⟨hread, hfiled, hfind, hsize⟩ :=
    sources_agree [first, second, third] (by simp) _ _ hlist hprops
  exact ⟨hread, hfiled, hfind _, hfind _, hsize⟩

end Countersign
