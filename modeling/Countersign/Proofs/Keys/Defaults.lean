import Countersign.Proofs.Keys.Lines
import Countersign.Proofs.Keys.Ring

/-!
# Loading a properties text

A text is gone through once, from the first line to the last, and keys and defaults are collected
on the way. What comes of it is said of the text as a whole, in this order:

| condition on the lines | outcome |
| --- | --- |
| some line misnames a key | refused, for the first such line |
| the last default line names a key that no line defines | refused, with the name |
| there is no default line and no key line | refused: there are no keys |
| otherwise | a book, whose default is one of its keys |

Of two lines that misname a key it is the first that counts, of two default lines the last, and a
key is defined wherever its line stands. Without a default line the default is the least key there
is. One of the four cases always applies (`Countersign.KeyBook.outcome_ofProperties`), and only one
(`Countersign.KeyBook.loading_decides`).
-/

namespace Countersign.KeyBook

/-! ### What the lines of a text define -/

/-- Some line gives a value to the key of a name. -/
def IsDefined (lines : List Text) (n : KeyName) : Prop :=
  ∃ line ∈ lines, ∃ value, IsKeyLine line n.text value

/-- The last of the default lines names this key. -/
def IsLastDefault (lines : List Text) (n : KeyName) : Prop :=
  ∃ before line after, lines = before ++ line :: after ∧ IsDefaultLine line n.text ∧
    ∀ l ∈ after, ∀ id, ¬IsDefaultLine l id

/-- There is a default line. -/
def HasDefaultLine (lines : List Text) : Prop := ∃ line ∈ lines, ∃ id, IsDefaultLine line id

/-- There is a key line. -/
def HasKeyLine (lines : List Text) : Prop := ∃ line ∈ lines, ∃ id value, IsKeyLine line id value

theorem mem_names_ringOf {es : List Entry} {n : KeyName} :
    n ∈ (ringOf es).names ↔ ∃ secret, .key n secret ∈ es := by
  rw [ringOf, KeyRing.mem_names_ofList, List.mem_map]
  constructor
  · rintro ⟨⟨m, secret⟩, hmem, rfl⟩
    obtain ⟨e, he, hes⟩ := List.mem_filterMap.mp hmem
    cases e with
    | key m' secret' =>
      obtain ⟨rfl, rfl⟩ := Prod.mk.inj (Option.some.inj hes)
      exact ⟨_, he⟩
    | default m' => exact absurd hes (by simp)
  · rintro ⟨secret, hmem⟩
    exact ⟨(n, secret), List.mem_filterMap.mpr ⟨_, hmem, rfl⟩, rfl⟩

/-- The default that a line names. -/
def defaultNamed? (line : Text) : Option KeyName :=
  (said? line).bind fun
    | .key _ _ => none
    | .default n => some n

theorem defaultNamed?_eq_some_iff {line : Text} {n : KeyName} :
    defaultNamed? line = some n ↔ n.IsProper ∧ IsDefaultLine line n.text := by
  rw [defaultNamed?, Option.bind_eq_some_iff]
  constructor
  · rintro ⟨e, he, hn⟩
    cases said?_eq_some_iff.mp he with
    | key hproper h => exact absurd hn (by simp)
    | default hproper h =>
      obtain rfl := Option.some.inj hn
      exact ⟨hproper, h⟩
  · rintro ⟨hproper, h⟩
    exact ⟨.default n, said?_eq_some_iff.mpr (.default hproper h), rfl⟩

/-- Of the defaults that are named the last counts. -/
theorem namedDefault?_filterMap (lines : List Text) :
    namedDefault? (lines.filterMap said?) = lines.reverse.findSome? defaultNamed? := by
  rw [namedDefault?, List.filterMap_filterMap, List.getLast?_filterMap]
  rfl

section Sound

variable {lines : List Text} (hsound : IsSound lines)

include hsound

/-- A key line that is not refused says what its value is for a proper name. -/
theorem IsSound.exists_says_key {line id value : Text} (hline : line ∈ lines)
    (h : IsKeyLine line id value) :
    ∃ n : KeyName, n.IsProper ∧ id = n.text ∧ Says line (.key n (Utf8.encode value)) := by
  by_contra hnone
  refine hsound line hline _ (.key h fun n hn he => hnone ⟨n, hn, he, ?_⟩)
  subst he
  exact .key hn h

/-- A default line that is not refused names a proper name. -/
theorem IsSound.exists_says_default {line id : Text} (hline : line ∈ lines)
    (h : IsDefaultLine line id) :
    ∃ n : KeyName, n.IsProper ∧ id = n.text ∧ Says line (.default n) := by
  by_contra hnone
  refine hsound line hline _ (.default h fun n hn he => hnone ⟨n, hn, he, ?_⟩)
  subst he
  exact .default hn h

/-- **What the lines define** are the names in the ring. -/
theorem IsSound.isDefined_iff {n : KeyName} :
    IsDefined lines n ↔ n ∈ (ringOf (lines.filterMap said?)).names := by
  rw [mem_names_ringOf]
  constructor
  · rintro ⟨line, hline, value, h⟩
    obtain ⟨m, hm, htext, hsays⟩ := hsound.exists_says_key hline h
    obtain rfl := KeyName.eq_of_text_eq hm htext
    exact ⟨_, List.mem_filterMap.mpr ⟨line, hline, said?_eq_some_iff.mpr hsays⟩⟩
  · rintro ⟨secret, hmem⟩
    obtain ⟨line, hline, hsaid⟩ := List.mem_filterMap.mp hmem
    cases said?_eq_some_iff.mp hsaid with
    | key hn h => exact ⟨line, hline, _, h⟩

theorem IsSound.defaultNamed?_eq_none_iff {line : Text} (hline : line ∈ lines) :
    defaultNamed? line = none ↔ ∀ id, ¬IsDefaultLine line id := by
  constructor
  · intro hnone id h
    obtain ⟨n, hn, rfl, -⟩ := hsound.exists_says_default hline h
    exact absurd (hnone.symm.trans (defaultNamed?_eq_some_iff.mpr ⟨hn, h⟩)) (by simp)
  · intro hnone
    rw [Option.eq_none_iff_forall_ne_some]
    exact fun n hn => hnone _ (defaultNamed?_eq_some_iff.mp hn).2

/-- **The default that counts** is that of the last default line. -/
theorem IsSound.isLastDefault_iff {n : KeyName} :
    IsLastDefault lines n ↔ namedDefault? (lines.filterMap said?) = some n := by
  rw [namedDefault?_filterMap, List.findSome?_eq_some_iff]
  constructor
  · rintro ⟨before, line, after, rfl, hline, hafter⟩
    obtain ⟨m, hm, htext, -⟩ := hsound.exists_says_default (by simp) hline
    obtain rfl := KeyName.eq_of_text_eq hm htext
    refine ⟨after.reverse, line, before.reverse, by simp,
      defaultNamed?_eq_some_iff.mpr ⟨hm, hline⟩, fun l hl => ?_⟩
    have hmem : l ∈ after := List.mem_reverse.mp hl
    exact (hsound.defaultNamed?_eq_none_iff (by simp [hmem])).mpr (hafter l hmem)
  · rintro ⟨after, line, before, hlines, hline, hafter⟩
    have hsplit : lines = before.reverse ++ line :: after.reverse := by
      rw [← List.reverse_reverse lines, hlines]
      simp
    refine ⟨before.reverse, line, after.reverse, hsplit,
      (defaultNamed?_eq_some_iff.mp hline).2, fun l hl => ?_⟩
    have hmem : l ∈ lines := by simp [hsplit, List.mem_reverse.mp hl]
    exact (hsound.defaultNamed?_eq_none_iff hmem).mp (hafter l (List.mem_reverse.mp hl))

theorem IsSound.namedDefault?_eq_none_iff :
    namedDefault? (lines.filterMap said?) = none ↔ ¬HasDefaultLine lines := by
  rw [namedDefault?_filterMap, List.findSome?_eq_none_iff]
  constructor
  · rintro hnone ⟨line, hline, id, h⟩
    exact (hsound.defaultNamed?_eq_none_iff hline).mp
      (hnone line (List.mem_reverse.mpr hline)) id h
  · intro hnone line hline
    have hmem : line ∈ lines := List.mem_reverse.mp hline
    exact (hsound.defaultNamed?_eq_none_iff hmem).mpr fun id h => hnone ⟨line, hmem, id, h⟩

theorem IsSound.hasKeyLine_iff : HasKeyLine lines ↔ ∃ n, IsDefined lines n := by
  constructor
  · rintro ⟨line, hline, id, value, h⟩
    obtain ⟨n, -, rfl, -⟩ := hsound.exists_says_key hline h
    exact ⟨n, line, hline, value, h⟩
  · rintro ⟨n, line, hline, value, h⟩
    exact ⟨line, hline, n.text, value, h⟩

/-- What is defined has a proper name. -/
theorem IsSound.isProper_of_isDefined {n : KeyName} (h : IsDefined lines n) : n.IsProper := by
  obtain ⟨line, hline, value, hkey⟩ := h
  obtain ⟨m, hm, htext, -⟩ := hsound.exists_says_key hline hkey
  exact KeyName.eq_of_text_eq hm htext ▸ hm

end Sound

/-! ### The four outcomes -/

/-- What comes of loading a text with the given lines. -/
inductive Outcome (lines : List Text) : Except KeyFault KeyBook → Prop
  /-- A line is refused. -/
  | misnamed {shown : Text} (h : IsFirstMisnamed lines shown) :
    Outcome lines (.error (.invalidEntry shown))
  /-- The default is no key. -/
  | unknownDefault {n : KeyName} (sound : IsSound lines) (named : IsLastDefault lines n)
      (undefined : ¬IsDefined lines n) : Outcome lines (.error (.unknownDefault n))
  /-- There is nothing about keys. -/
  | noKeys (sound : IsSound lines) (no_default : ¬HasDefaultLine lines)
      (no_key : ¬HasKeyLine lines) :
    Outcome lines (.error (.noKeys "`partnerauth.keys.*` entries".toList))
  /-- There are keys, and one of them is the default. -/
  | loaded {b : KeyBook} (sound : IsSound lines)
      (names : ∀ n, (b.ring.find? n).isSome ↔ IsDefined lines n)
      (defined : IsDefined lines b.default)
      (default : IsLastDefault lines b.default ∨
        ¬HasDefaultLine lines ∧ ∀ n, IsDefined lines n → b.default.IsAtMost n) :
    Outcome lines (.ok b)

/-- **Every text has one of the four outcomes.** -/
theorem outcome_ofProperties (t : Text) : Outcome (t.splitOn '\n') (ofProperties t) := by
  rcases isSound_or_exists_isFirstMisnamed (t.splitOn '\n') with hsound | ⟨shown, hfirst⟩
  · have hnames (n : KeyName) : ((ringOf ((t.splitOn '\n').filterMap said?)).find? n).isSome ↔
        IsDefined (t.splitOn '\n') n := by
      rw [KeyRing.isSome_find?_iff, hsound.isDefined_iff]
    rw [ofProperties, entries_of_isSound hsound, ok_bind]
    -- The default is looked for when all keys are there, those of later lines included.
    cases hnamed : namedDefault? ((t.splitOn '\n').filterMap said?) with
    | some n =>
      have hlast := hsound.isLastDefault_iff.mpr hnamed
      by_cases hfind : ((ringOf ((t.splitOn '\n').filterMap said?)).find? n).isSome
      · simp only [if_pos hfind]
        exact .loaded hsound hnames ((hnames n).mp hfind) (Or.inl hlast)
      · simp only [if_neg hfind]
        exact .unknownDefault hsound hlast (mt (hnames n).mpr hfind)
    | none =>
      have hnone := hsound.namedDefault?_eq_none_iff.mp hnamed
      rcases KeyRing.least?_cases (ringOf ((t.splitOn '\n').filterMap said?)) with
        ⟨hempty, hleast⟩ | ⟨n, hleast, hmem, hle⟩
      · simp only [hleast]
        refine .noKeys hsound hnone fun hkey => ?_
        obtain ⟨n, hn⟩ := hsound.hasKeyLine_iff.mp hkey
        rw [hsound.isDefined_iff, hempty] at hn
        exact absurd hn List.not_mem_nil
      · simp only [hleast]
        refine .loaded hsound hnames (hsound.isDefined_iff.mpr hmem)
          (Or.inr ⟨hnone, fun m hm => ?_⟩)
        exact KeyName.le_iff_isAtMost.mp (hle m (hsound.isDefined_iff.mp hm))
  · rw [ofProperties, entries_of_isFirstMisnamed hfirst]
    exact .misnamed hfirst

/-! ### One outcome only -/

/-- A text with a line that is refused is not sound. -/
theorem IsFirstMisnamed.not_isSound {lines : List Text} {shown : Text}
    (h : IsFirstMisnamed lines shown) : ¬IsSound lines := by
  obtain ⟨before, line, after, rfl, -, hline⟩ := h
  exact fun hsound => hsound line (by simp) shown hline

theorem IsFirstMisnamed.eq {t shown shown' : Text} (h : IsFirstMisnamed (t.splitOn '\n') shown)
    (h' : IsFirstMisnamed (t.splitOn '\n') shown') : shown = shown' :=
  KeyFault.invalidEntry.inj (Except.error.inj
    ((entries_of_isFirstMisnamed h).symm.trans (entries_of_isFirstMisnamed h')))

theorem IsLastDefault.hasDefaultLine {lines : List Text} {n : KeyName}
    (h : IsLastDefault lines n) : HasDefaultLine lines := by
  obtain ⟨before, line, after, rfl, hline, -⟩ := h
  exact ⟨line, by simp, n.text, hline⟩

/-- The last default line names one key only. -/
theorem IsSound.eq_of_isLastDefault {lines : List Text} {n m : KeyName} (hsound : IsSound lines)
    (hn : IsLastDefault lines n) (hm : IsLastDefault lines m) : n = m :=
  Option.some.inj ((hsound.isLastDefault_iff.mp hn).symm.trans (hsound.isLastDefault_iff.mp hm))

section Outcome

variable {t : Text}

theorem ofProperties_eq_invalidEntry_iff {shown : Text} :
    ofProperties t = .error (.invalidEntry shown) ↔ IsFirstMisnamed (t.splitOn '\n') shown := by
  have hout := outcome_ofProperties t
  constructor
  · intro h
    rw [h] at hout
    cases hout with
    | misnamed hfirst => exact hfirst
  · intro hfirst
    generalize ofProperties t = out at hout ⊢
    cases hout with
    | misnamed h => rw [h.eq hfirst]
    | unknownDefault sound named undefined => exact absurd sound hfirst.not_isSound
    | noKeys sound no_default no_key => exact absurd sound hfirst.not_isSound
    | loaded sound names defined default => exact absurd sound hfirst.not_isSound

theorem ofProperties_eq_unknownDefault_iff {n : KeyName} :
    ofProperties t = .error (.unknownDefault n) ↔
      IsSound (t.splitOn '\n') ∧ IsLastDefault (t.splitOn '\n') n ∧
        ¬IsDefined (t.splitOn '\n') n := by
  have hout := outcome_ofProperties t
  constructor
  · intro h
    rw [h] at hout
    cases hout with
    | unknownDefault sound named undefined => exact ⟨sound, named, undefined⟩
  · rintro ⟨hsound, hnamed, hundefined⟩
    generalize ofProperties t = out at hout ⊢
    cases hout with
    | misnamed h => exact absurd hsound h.not_isSound
    | unknownDefault sound named undefined => rw [hsound.eq_of_isLastDefault named hnamed]
    | noKeys sound no_default no_key => exact absurd hnamed.hasDefaultLine no_default
    | loaded sound names defined default =>
      rcases default with hlast | ⟨hnone, -⟩
      · exact absurd (hsound.eq_of_isLastDefault hlast hnamed ▸ defined) hundefined
      · exact absurd hnamed.hasDefaultLine hnone

theorem ofProperties_eq_noKeys_iff {source : Text} :
    ofProperties t = .error (.noKeys source) ↔
      IsSound (t.splitOn '\n') ∧ ¬HasDefaultLine (t.splitOn '\n') ∧
        ¬HasKeyLine (t.splitOn '\n') ∧ source = "`partnerauth.keys.*` entries".toList := by
  have hout := outcome_ofProperties t
  constructor
  · intro h
    rw [h] at hout
    cases hout with
    | noKeys sound no_default no_key => exact ⟨sound, no_default, no_key, rfl⟩
  · rintro ⟨hsound, hdefault, hkey, rfl⟩
    generalize ofProperties t = out at hout ⊢
    cases hout with
    | misnamed h => exact absurd hsound h.not_isSound
    | unknownDefault sound named undefined => exact absurd named.hasDefaultLine hdefault
    | noKeys sound no_default no_key => rfl
    | loaded sound names defined default =>
      exact absurd (hsound.hasKeyLine_iff.mpr ⟨_, defined⟩) hkey

theorem exists_ofProperties_eq_ok_iff :
    (∃ b, ofProperties t = .ok b) ↔
      IsSound (t.splitOn '\n') ∧
        (∀ n, IsLastDefault (t.splitOn '\n') n → IsDefined (t.splitOn '\n') n) ∧
        (HasDefaultLine (t.splitOn '\n') ∨ HasKeyLine (t.splitOn '\n')) := by
  have hout := outcome_ofProperties t
  constructor
  · rintro ⟨b, h⟩
    rw [h] at hout
    cases hout with
    | loaded sound names defined default =>
      refine ⟨sound, fun n hn => ?_, Or.inr (sound.hasKeyLine_iff.mpr ⟨_, defined⟩)⟩
      rcases default with hlast | ⟨hnone, -⟩
      · exact sound.eq_of_isLastDefault hlast hn ▸ defined
      · exact absurd hn.hasDefaultLine hnone
  · rintro ⟨hsound, hdefined, hany⟩
    generalize ofProperties t = out at hout ⊢
    cases hout with
    | misnamed h => exact absurd hsound h.not_isSound
    | unknownDefault sound named undefined => exact absurd (hdefined _ named) undefined
    | noKeys sound no_default no_key => exact absurd hany (not_or.mpr ⟨no_default, no_key⟩)
    | loaded sound names defined default => exact ⟨_, rfl⟩

end Outcome

/-- **What loading a properties text comes to**, for every text. It is refused with the first line
that misnames a key, whatever else is in it; otherwise with the name that the last default line
gives, if no line defines the key; otherwise, if there is neither a default line nor a key line, for
want of keys. In all other cases, and only then, there is a book. Its default is the one that the
last default line names, or, without a default line, the least of the keys that the lines define, by
the bytes of partner and key; the default has a secret, and the keys with a secret are those that
some line defines, all under proper names. -/
theorem loading_decides (t : Text) :
    let lines := t.splitOn '\n'
    (∀ shown, ofProperties t = .error (.invalidEntry shown) ↔ IsFirstMisnamed lines shown) ∧
      (∀ n, ofProperties t = .error (.unknownDefault n) ↔
        IsSound lines ∧ IsLastDefault lines n ∧ ¬IsDefined lines n) ∧
      (∀ source, ofProperties t = .error (.noKeys source) ↔
        IsSound lines ∧ ¬HasDefaultLine lines ∧ ¬HasKeyLine lines ∧
          source = "`partnerauth.keys.*` entries".toList) ∧
      ((∃ b, ofProperties t = .ok b) ↔
        IsSound lines ∧ (∀ n, IsLastDefault lines n → IsDefined lines n) ∧
          (HasDefaultLine lines ∨ HasKeyLine lines)) ∧
      ∀ b, ofProperties t = .ok b →
        (IsLastDefault lines b.default ∨ ¬HasDefaultLine lines ∧ IsDefined lines b.default ∧
            ∀ n, IsDefined lines n → b.default.IsAtMost n) ∧
          (b.ring.find? b.default).isSome ∧
          ∀ n, ((b.ring.find? n).isSome ↔ IsDefined lines n) ∧
            ((b.ring.find? n).isSome → n.IsProper) := by
  refine ⟨fun shown => ofProperties_eq_invalidEntry_iff,
    fun n => ofProperties_eq_unknownDefault_iff, fun source => ofProperties_eq_noKeys_iff,
    exists_ofProperties_eq_ok_iff, fun b hb => ?_⟩
  have hout := outcome_ofProperties t
  rw [hb] at hout
  cases hout with
  | loaded sound names defined default =>
    refine ⟨default.imp_right fun h => ⟨h.1, defined, h.2⟩, (names b.default).mpr defined,
      fun n => ⟨names n, fun hn => sound.isProper_of_isDefined ((names n).mp hn)⟩⟩

/-- A default line in front of the line of its key, and no key without a name. -/
theorem loading_decides_of_default_first :
    let t := "partnerauth.keys.default=bob.1\npartnerauth.keys.bob.1=k\n".toList
    (∃ b, ofProperties t = .ok b ∧ b.default = ⟨"bob".toList, "1".toList⟩ ∧
      (b.ring.find? b.default).isSome ∧ ∀ n, (b.ring.find? n).isSome → n.IsProper) ∧
      ¬∃ shown, IsFirstMisnamed (t.splitOn '\n') shown := by
  intro t
  obtain ⟨hmisnamed, -, -, -, hloaded⟩ := loading_decides t
  have hread : (ofProperties t).map KeyBook.default = .ok ⟨"bob".toList, "1".toList⟩ := by decide
  cases hbook : ofProperties t with
  | error f =>
    rw [hbook] at hread
    exact absurd hread (by simp [Except.map])
  | ok b =>
    rw [hbook] at hread
    obtain ⟨-, hfind, hnames⟩ := hloaded b hbook
    refine ⟨⟨b, rfl, Except.ok.inj hread, hfind, fun n => (hnames n).2⟩, ?_⟩
    rintro ⟨shown, hfirst⟩
    exact absurd (hbook.symm.trans ((hmisnamed shown).mpr hfirst)) (by simp)

end Countersign.KeyBook
