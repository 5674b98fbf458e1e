import Countersign.Proofs.Keys.Lines
import Countersign.Proofs.Keys.Ring

/-!
# What secrets have no part in

Two texts that agree in everything but their secrets are read alike
(`Countersign.KeyBook.secrets_are_not_shown`): either both are refused, with the same fault, or
both are read, and what comes of them cannot be told apart by names, number, default or description.

The secret of a piece is what stands behind its first separator. It is out of sight from the
beginning: whether a piece is blank, a comment or an assignment is decided by what stands in front
of it, separator included, and so is every fault – but for one. A default line that gives no proper
name is reported as a whole. So a default line has no secret, and of two such texts the default
lines are the same.

The argument goes through both readers in the same way: pieces that agree up to their separator give
entries of the same name, and a ring tells its names in the same way whatever its secrets are.
-/

namespace Countersign

namespace Text

/-- Two texts that differ at most behind their first character with a property. -/
def AgreeUpTo (p : Char → Bool) (s t : Text) : Prop :=
  s = t ∨ ∃ front c back back', p c = true ∧ (∀ x ∈ front, p x = false) ∧
    s = front ++ c :: back ∧ t = front ++ c :: back'

end Text

/-! ### Entries of a comma list -/

namespace KeyRing

/-- Two entries of one name. -/
def SameName (e e' : KeyName × Bytes) : Prop := e.1 = e'.1

theorem map_fst_eq {es es' : List (KeyName × Bytes)} (h : List.Forall₂ SameName es es') :
    es.map Prod.fst = es'.map Prod.fst := by
  induction h with
  | nil => rfl
  | cons hname _ ih => rw [List.map_cons, List.map_cons, hname, ih]

/-- **Rings of entries with the same names** have the same names. -/
theorem names_ofList_eq {es es' : List (KeyName × Bytes)} (h : List.Forall₂ SameName es es') :
    (ofList es).names = (ofList es').names := by
  rw [names_ofList, names_ofList, map_fst_eq h]

/-- Pieces that agree up to their first `=` are blank both or neither. -/
theorem blank_iff_of_agreeUpTo {s t : Text} (h : Text.AgreeUpTo (· == '=') s t) :
    Text.Blank s ↔ Text.Blank t := by
  rcases h with rfl | ⟨front, c, back, back', hc, -, rfl, rfl⟩
  · rfl
  · obtain rfl := beq_iff_eq.mp hc
    have hnot (r : Text) : ¬Text.Blank (front ++ '=' :: r) :=
      Text.not_blank_of_mem (List.mem_append_right front List.mem_cons_self) (by decide)
    exact iff_of_false (hnot back) (hnot back')

/-- Pieces that agree up to their first `=` are read alike. -/
theorem alike_commaEntry {s t : Text} (h : Text.AgreeUpTo (· == '=') s t) :
    Alike SameName (commaEntry (Text.trim s)) (commaEntry (Text.trim t)) := by
  rcases h with rfl | ⟨front, c, back, back', hc, hfree, rfl, rfl⟩
  · cases commaEntry (Text.trim s) with
    | error f => exact .error f
    | ok e => exact .ok rfl
  · obtain rfl := beq_iff_eq.mp hc
    rw [commaEntry_trim back hfree, commaEntry_trim back' hfree]
    cases KeyName.ofText? (Text.trim front) with
    | none => exact .error _
    | some n => exact .ok rfl

/-- What is left by trimming of two pieces that agree up to their first `=`. -/
def Trimmed (s t : Text) : Prop :=
  ∃ s' t', Text.AgreeUpTo (· == '=') s' t' ∧ s = Text.trim s' ∧ t = Text.trim t'

theorem alike_of_trimmed (s t : Text) (h : Trimmed s t) :
    Alike SameName (commaEntry s) (commaEntry t) := by
  obtain ⟨s', t', h, rfl, rfl⟩ := h
  exact alike_commaEntry h

/-- The pieces that are not blank, in two lists that agree piece by piece. -/
theorem trimmed_commaPieces {t t' : Text}
    (h : List.Forall₂ (Text.AgreeUpTo (· == '=')) (t.splitOn ',') (t'.splitOn ',')) :
    List.Forall₂ Trimmed (Text.commaPieces t) (Text.commaPieces t') := by
  have hmap : List.Forall₂ Trimmed ((t.splitOn ',').map Text.trim)
      ((t'.splitOn ',').map Text.trim) :=
    List.rel_map (fun s t hst => ⟨s, t, hst, rfl, rfl⟩) h
  refine List.rel_filter (fun s t hst => ?_) hmap
  obtain ⟨s', t', hst', rfl, rfl⟩ := hst
  simp [blank_iff_of_agreeUpTo hst']

/-- **Comma lists that agree up to the secrets** are read alike. -/
theorem alike_ofCommaList {t t' : Text}
    (h : List.Forall₂ (Text.AgreeUpTo (· == '=')) (t.splitOn ',') (t'.splitOn ',')) :
    Alike (fun r r' => r.names = r'.names) (ofCommaList t) (ofCommaList t') := by
  have hentries := Alike.mapM alike_of_trimmed (trimmed_commaPieces h)
  rw [ofCommaList, ofCommaList]
  generalize (Text.commaPieces t).mapM commaEntry = out at hentries
  generalize (Text.commaPieces t').mapM commaEntry = out' at hentries
  cases hentries with
  | error f => exact .error f
  | ok hes =>
    cases hes with
    | nil => exact .error _
    | cons he hes => exact .ok (names_ofList_eq (.cons he hes))

end KeyRing

/-! ### Lines of a properties text -/

namespace KeyBook

/-- Entries that say the same but for a secret. -/
inductive SameName : Entry → Entry → Prop
  | key (n : KeyName) (secret secret' : Bytes) : SameName (.key n secret) (.key n secret')
  | default (n : KeyName) : SameName (.default n) (.default n)

theorem sameName_refl (e : Entry) : SameName e e := by
  cases e with
  | key n secret => exact .key n secret secret
  | default n => exact .default n

theorem alike_refl (out : Except KeyFault (Option Entry)) :
    Alike (Option.Rel SameName) out out := by
  cases out with
  | error f => exact .error f
  | ok e =>
    cases e with
    | none => exact .ok .none
    | some e => exact .ok (.some (sameName_refl e))

/-- Two lines that are the same, or are no default lines and agree up to their separator. -/
def AgreeUpToSecret (line line' : Text) : Prop :=
  line = line' ∨ (∀ id, ¬IsDefaultLine line id) ∧ Text.AgreeUpTo isSeparator line line'

/-- Whether a line is a comment is decided in front of what follows its separator. -/
theorem isComment_of_isComment {front back : Text} {sep : Char} (back' : Text)
    (hsep : isSeparator sep = true) (h : IsComment (front ++ sep :: back)) :
    IsComment (front ++ sep :: back') := by
  have hblank := isBlank_of_isSeparator hsep
  obtain ⟨c, r, htrim, hc⟩ := isComment_iff.mp h
  rw [Text.trim_append_cons front back hblank] at htrim
  rw [isComment_iff, Text.trim_append_cons front back' hblank]
  cases hfront : Text.trimStart front with
  | nil =>
    rw [hfront] at htrim
    exact ⟨sep, _, rfl, (List.cons.inj htrim).1 ▸ hc⟩
  | cons x xs =>
    rw [hfront] at htrim
    exact ⟨x, _, rfl, (List.cons.inj htrim).1 ▸ hc⟩

/-- What two lines assign to a name other than that of the default is read alike. -/
theorem alike_assigned {name : Text} (hname : name ≠ defaultName) (line line' value value' : Text) :
    Alike (Option.Rel SameName) (assigned line name value) (assigned line' name value') := by
  rw [assigned, assigned, if_neg hname, if_neg hname]
  split
  · cases KeyName.ofText? (name.drop keyPrefix.length) with
    | none => exact .error _
    | some n => exact .ok (.some (.key n _ _))
  · exact .ok .none

/-- **Lines that agree up to a secret** are read alike. -/
theorem alike_readLine {line line' : Text} (h : AgreeUpToSecret line line') :
    Alike (Option.Rel SameName) (readLine line) (readLine line') := by
  rcases h with rfl | ⟨hdefault, rfl | ⟨front, sep, back, back', hsep, hfree, rfl, rfl⟩⟩
  · exact alike_refl _
  · exact alike_refl _
  by_cases hcomment : IsComment (front ++ sep :: back)
  · rw [readLine_of_isComment hcomment,
      readLine_of_isComment (isComment_of_isComment back' hsep hcomment)]
    exact alike_refl _
  -- Neither is a comment, so both are cut at the same separator, behind the same name.
  have hcomment' : ¬IsComment (front ++ sep :: back') :=
    mt (isComment_of_isComment back hsep) hcomment
  have hassigns : Assigns (front ++ sep :: back) (Text.trim front) (Text.trim back) :=
    ⟨hcomment, front, sep, back, rfl, hsep, hfree, rfl, rfl⟩
  have hname : Text.trim front ≠ defaultName := fun he => hdefault _ (he ▸ hassigns)
  rw [readLine_of_assigns hassigns,
    readLine_of_assigns ⟨hcomment', front, sep, back', rfl, hsep, hfree, rfl, rfl⟩]
  exact alike_assigned hname _ _ _ _

/-- The entries of two texts that agree line by line. -/
theorem alike_entries {t t' : Text}
    (h : List.Forall₂ AgreeUpToSecret (t.splitOn '\n') (t'.splitOn '\n')) :
    Alike (List.Forall₂ SameName) (entries t) (entries t') := by
  rw [entries_eq, entries_eq]
  exact (Alike.mapM (fun _ _ hline => alike_readLine hline) h).map fun es es' hes =>
    List.rel_filterMap (fun _ _ he => he) hes

theorem names_ringOf_eq {es es' : List Entry} (h : List.Forall₂ SameName es es') :
    (ringOf es).names = (ringOf es').names := by
  refine KeyRing.names_ofList_eq (List.rel_filterMap (fun e e' he => ?_) h)
  cases he with
  | key n secret secret' => exact .some rfl
  | default n => exact .none

theorem namedDefault?_eq {es es' : List Entry} (h : List.Forall₂ SameName es es') :
    namedDefault? es = namedDefault? es' := by
  rw [namedDefault?, namedDefault?]
  refine congrArg List.getLast? (List.forall₂_eq_eq_eq ▸ List.rel_filterMap (fun e e' he => ?_) h)
  cases he with
  | key n secret secret' => exact .none
  | default n => exact .some rfl

/-- **Properties texts that agree up to the secrets** are read alike. -/
theorem alike_ofProperties {t t' : Text}
    (h : List.Forall₂ AgreeUpToSecret (t.splitOn '\n') (t'.splitOn '\n')) :
    Alike (fun b b' => b.ring.names = b'.ring.names ∧ b.default = b'.default)
      (ofProperties t) (ofProperties t') := by
  refine (alike_entries h).bind fun es es' hes => ?_
  have hnames := names_ringOf_eq hes
  simp only [namedDefault?_eq hes, KeyRing.least?_eq_of_names_eq hnames,
    KeyRing.isSome_find?_eq_of_names_eq hnames]
  cases namedDefault? es' with
  | some n =>
    by_cases hfind : ((ringOf es').find? n).isSome
    · simp only [if_pos hfind]
      exact .ok ⟨hnames, rfl⟩
    · simp only [if_neg hfind]
      exact .error _
  | none =>
    cases (ringOf es').least? with
    | some n => exact .ok ⟨hnames, rfl⟩
    | none => exact .error _

theorem describe_eq {b b' : KeyBook} (hnames : b.ring.names = b'.ring.names)
    (hdefault : b.default = b'.default) : b.describe = b'.describe := by
  unfold describe
  rw [KeyRing.describeNames_eq_of_names_eq hnames, hdefault]

/-- **Secrets are not shown.** Two comma lists whose entries differ at most behind their first `=`
are refused with the same fault, or give rings with the same names and as many keys. Two properties
texts whose lines differ at most behind their first separator, and whose default lines are the same,
are refused with the same fault, or give books with the same names, the same default and the same
description. -/
theorem secrets_are_not_shown :
    (∀ t t' : Text,
      List.Forall₂ (Text.AgreeUpTo (· == '=')) (t.splitOn ',') (t'.splitOn ',') →
        Alike (fun r r' : KeyRing =>
            (∀ n, (r.find? n).isSome = (r'.find? n).isSome) ∧ r.size = r'.size)
          (KeyRing.ofCommaList t) (KeyRing.ofCommaList t')) ∧
      ∀ t t' : Text, List.Forall₂ AgreeUpToSecret (t.splitOn '\n') (t'.splitOn '\n') →
        Alike (fun b b' : KeyBook =>
            (∀ n, (b.ring.find? n).isSome = (b'.ring.find? n).isSome) ∧ b.default = b'.default ∧
              b.describe = b'.describe)
          (ofProperties t) (ofProperties t') := by
  refine ⟨fun t t' h => ?_, fun t t' h => ?_⟩
  · refine (KeyRing.alike_ofCommaList h).imp fun r r' hnames => ⟨?_, ?_⟩
    · exact KeyRing.isSome_find?_eq_of_names_eq hnames
    · exact KeyRing.size_eq_of_names_eq hnames
  · refine (alike_ofProperties h).imp fun b b' hsame => ⟨?_, hsame.2, ?_⟩
    · exact KeyRing.isSome_find?_eq_of_names_eq hsame.1
    · exact describe_eq hsame.1 hsame.2

/-- Two lists and two texts in which the secret of one key differs, in the second case by text that
has a separator in it and begins as a comment does. -/
theorem secrets_are_not_shown_of_bob :
    let listed (secret : Text) : Text := "ann.2=x,bob.1=".toList ++ secret
    let filed (secret : Text) : Text :=
      "partnerauth.keys.default = bob.1\npartnerauth.keys.bob.1 :".toList ++ secret
    (KeyRing.ofCommaList (listed "k".toList)).map KeyRing.size = .ok 2 ∧
      Alike (fun r r' : KeyRing =>
          (∀ n, (r.find? n).isSome = (r'.find? n).isSome) ∧ r.size = r'.size)
        (KeyRing.ofCommaList (listed "k".toList)) (KeyRing.ofCommaList (listed "=".toList)) ∧
      (ofProperties (filed "k".toList)).map KeyBook.default = .ok ⟨"bob".toList, "1".toList⟩ ∧
      Alike (fun b b' : KeyBook =>
          (∀ n, (b.ring.find? n).isSome = (b'.ring.find? n).isSome) ∧ b.default = b'.default ∧
            b.describe = b'.describe)
        (ofProperties (filed "k".toList)) (ofProperties (filed "#=".toList)) := by
  intro listed filed
  have hlisted : (listed "k".toList).splitOn ',' = ["ann.2=x".toList, "bob.1=k".toList] ∧
      (listed "=".toList).splitOn ',' = ["ann.2=x".toList, "bob.1==".toList] := by decide
  have hfiled : (filed "k".toList).splitOn '\n' =
        ["partnerauth.keys.default = bob.1".toList, "partnerauth.keys.bob.1 :k".toList] ∧
      (filed "#=".toList).splitOn '\n' =
        ["partnerauth.keys.default = bob.1".toList, "partnerauth.keys.bob.1 :#=".toList] := by
    decide
  have hkey : Assigns ("partnerauth.keys.bob.1 ".toList ++ ':' :: "k".toList)
      "partnerauth.keys.bob.1".toList "k".toList :=
    assigns_of_isPadded (by decide) ⟨[], [' '], by decide⟩ ⟨[], [], by decide⟩
      (by decide) (by decide) (List.all_iff_forall_prop.mp (by decide)) ⟨'p', _, rfl, by decide⟩
  refine ⟨by decide, secrets_are_not_shown.1 _ _ ?_, by decide, secrets_are_not_shown.2 _ _ ?_⟩
  · rw [hlisted.1, hlisted.2]
    exact .cons (Or.inl rfl) (.cons (Or.inr ⟨"bob.1".toList, '=', ['k'], ['='], rfl,
      List.all_iff_forall_prop.mp (by decide), rfl, rfl⟩) .nil)
  · rw [hfiled.1, hfiled.2]
    refine .cons (Or.inl rfl) (.cons (Or.inr ⟨fun id hdefault => ?_, Or.inr ?_⟩) .nil)
    · exact absurd (hkey.eq hdefault).1 (by decide)
    · exact ⟨"partnerauth.keys.bob.1 ".toList, ':', "k".toList, "#=".toList, rfl,
        List.all_iff_forall_prop.mp (by decide), rfl, rfl⟩

end KeyBook

end Countersign
