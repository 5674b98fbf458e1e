import Countersign.Canonical
import Countersign.Http.Field
import Countersign.Proofs.Text.Edges
import Countersign.Proofs.Text.Numerals
import Mathlib.Data.Bool.AllAny

/-!
# What is signed can be read in one way only

The signed text has no lengths in it: an optional query, any number of lines of
header fields, an optional digest and a time stand one behind the other, with
nothing between them but spaces, colons and line feeds. Still no two different
messages share a signed text
(`Countersign.Canonical.Message.eq_of_signedText_eq`), because the *first character
that is not one of a token* tells the lines apart:

| the line | its first such character |
|---|---|
| method and target | a space |
| a header field | a colon |
| the digest, or none | the line feed |

So a request is never mistaken for a response, and the line of the digest never for
one more header field. Inside a line the parts are found by their first separator,
and what is left behind the last line is the time.

The statement needs what header fields, targets and hashes give a canonical message
anyway (`Countersign.Canonical.Message.WellFormed`): names and methods are tokens,
values are on one line, a path has no `?`, and a digest is the text of a hash.
-/

namespace Countersign.Canonical

open Http

/-! ### Well-formed messages -/

/-- A line that comes from a header field: its name is a token, its value is on one line. -/
structure Line.WellFormed (l : Line) : Prop where
  name : IsToken l.name
  value : '\n' ∉ l.value

/-- What stands in the place of a digest: nothing, or 64 lower-case hexadecimal digits. -/
def IsDigest (d : Option Text) : Prop := ∀ t ∈ d, t.length = 64 ∧ ∀ c ∈ t, c ∈ Hex.digits

/-- A canonical request with the parts that HTTP allows. -/
structure Request.WellFormed (r : Request) : Prop where
  method : IsToken r.method
  path : '?' ∉ r.path ∧ '\n' ∉ r.path
  query : ∀ q ∈ r.query, '\n' ∉ q
  lines : ∀ l ∈ r.lines, l.WellFormed
  digest : IsDigest r.digest

/-- A canonical response with the parts that HTTP allows. -/
structure Response.WellFormed (r : Response) : Prop where
  lines : ∀ l ∈ r.lines, l.WellFormed
  digest : IsDigest r.digest

/-- A message with the parts that HTTP allows. -/
def Message.WellFormed : Message → Prop
  | request r => r.WellFormed
  | response r => r.WellFormed

instance (l : Line) : Decidable l.WellFormed :=
  decidable_of_iff (IsToken l.name ∧ '\n' ∉ l.value) ⟨fun h => ⟨h.1, h.2⟩, fun h => ⟨h.1, h.2⟩⟩

instance (d : Option Text) : Decidable (IsDigest d) :=
  decidable_of_iff (∀ t ∈ d, t.length = 64 ∧ t.all Hex.digits.contains = true) (by simp [IsDigest])

instance (r : Request) : Decidable r.WellFormed :=
  decidable_of_iff (IsToken r.method ∧ ('?' ∉ r.path ∧ '\n' ∉ r.path) ∧ (∀ q ∈ r.query, '\n' ∉ q) ∧
      (∀ l ∈ r.lines, l.WellFormed) ∧ IsDigest r.digest)
    ⟨fun ⟨hm, hp, hq, hl, hd⟩ => ⟨hm, hp, hq, hl, hd⟩,
      fun ⟨hm, hp, hq, hl, hd⟩ => ⟨hm, hp, hq, hl, hd⟩⟩

instance (r : Response) : Decidable r.WellFormed :=
  decidable_of_iff ((∀ l ∈ r.lines, l.WellFormed) ∧ IsDigest r.digest)
    ⟨fun ⟨hl, hd⟩ => ⟨hl, hd⟩, fun ⟨hl, hd⟩ => ⟨hl, hd⟩⟩

/-! ### Words

A line begins with a word of token characters. -/

/-- Characters that end a word. -/
def endsWord (c : Char) : Bool := !isTokenChar c

theorem endsWord_of_isToken {t : Text} (h : IsToken t) : ∀ c ∈ t, endsWord c = false := by
  intro c hc
  rw [endsWord, h.2 c hc]
  rfl

theorem endsWord_of_isDigest {d : Option Text} (h : IsDigest d) :
    ∀ c ∈ d.getD [], endsWord c = false := by
  have hdigits : ∀ c ∈ Hex.digits, endsWord c = false := List.all_iff_forall_prop.mp (by decide)
  intro c hc
  cases d with
  | none => exact absurd hc List.not_mem_nil
  | some t => exact hdigits c ((h t rfl).2 c hc)

theorem not_mem_of_endsWord {t : Text} {c : Char} (h : ∀ x ∈ t, endsWord x = false)
    (hc : endsWord c = true) : c ∉ t := by
  intro hmem
  rw [h c hmem] at hc
  exact absurd hc (by decide)

/-! ### Lines of header fields -/

theorem Line.text_append (l : Line) (s : Text) :
    l.text ++ s = l.name ++ ':' :: (' ' :: l.value ++ '\n' :: s) := by
  simp [Line.text]

/-- **A line is found in front of whatever follows it.** -/
theorem Line.eq_of_text_append_eq {l l' : Line} {s s' : Text} (hl : l.WellFormed)
    (hl' : l'.WellFormed) (h : l.text ++ s = l'.text ++ s') : l = l' ∧ s = s' := by
  rw [Line.text_append, Line.text_append] at h
  obtain ⟨hname, -, hrest⟩ := Text.append_cons_inj (endsWord_of_isToken hl.name)
    (endsWord_of_isToken hl'.name) (by decide) (by decide) h
  have hspace : ∀ {m : Line}, m.WellFormed → '\n' ∉ ' ' :: m.value := fun hm =>
    List.not_mem_cons_of_ne_of_not_mem (by decide) hm.value
  obtain ⟨hvalue, hs⟩ := Text.append_sep_inj (hspace hl) (hspace hl') hrest
  refine ⟨?_, hs⟩
  cases l
  cases l'
  cases hname
  cases (List.cons.inj hvalue).2
  rfl

/-! ### Lines and digest -/

theorem tailText_nil_append (d : Option Text) (s : Text) :
    tailText [] d ++ s = d.getD [] ++ '\n' :: s := by
  simp [tailText]

theorem tailText_cons_append (l : Line) (ls : List Line) (d : Option Text) (s : Text) :
    tailText (l :: ls) d ++ s = l.text ++ (tailText ls d ++ s) := by
  simp [tailText]

/-- The line of the digest is no header field: it has no colon behind its first word. -/
theorem tailText_nil_ne_cons {d d' : Option Text} {l : Line} {ls : List Line} {s s' : Text}
    (hd : IsDigest d) (hl : l.WellFormed) :
    tailText [] d ++ s ≠ tailText (l :: ls) d' ++ s' := by
  intro h
  rw [tailText_nil_append, tailText_cons_append, Line.text_append] at h
  obtain ⟨-, hsep, -⟩ := Text.append_cons_inj (endsWord_of_isDigest hd)
    (endsWord_of_isToken hl.name) (by decide) (by decide) h
  exact absurd hsep (by decide)

/-- An absent digest is not the digest of anything. -/
theorem eq_of_getD_eq {d d' : Option Text} (hd : IsDigest d) (hd' : IsDigest d')
    (h : d.getD [] = d'.getD []) : d = d' := by
  cases d with
  | none =>
    cases d' with
    | none => rfl
    | some t' =>
      have hlen := (hd' t' rfl).1
      rw [← show [] = t' from h] at hlen
      exact absurd hlen (by decide)
  | some t =>
    cases d' with
    | none =>
      have hlen := (hd t rfl).1
      rw [show t = [] from h] at hlen
      exact absurd hlen (by decide)
    | some t' => exact congrArg some h

/-- **The covered fields and the digest are found in front of whatever follows them.** The
induction is on the lines: as long as there is one on either side, both sides begin with it. -/
theorem eq_of_tailText_append_eq {ls ls' : List Line} {d d' : Option Text} {s s' : Text}
    (hls : ∀ l ∈ ls, l.WellFormed) (hls' : ∀ l ∈ ls', l.WellFormed) (hd : IsDigest d)
    (hd' : IsDigest d') (h : tailText ls d ++ s = tailText ls' d' ++ s') :
    ls = ls' ∧ d = d' ∧ s = s' := by
  induction ls generalizing ls' with
  | nil =>
    cases ls' with
    | nil =>
      rw [tailText_nil_append, tailText_nil_append] at h
      obtain ⟨hdd, hss⟩ := Text.append_sep_inj
        (not_mem_of_endsWord (endsWord_of_isDigest hd) (by decide))
        (not_mem_of_endsWord (endsWord_of_isDigest hd') (by decide)) h
      exact ⟨rfl, eq_of_getD_eq hd hd' hdd, hss⟩
    | cons l' ls' => exact absurd h (tailText_nil_ne_cons hd (hls' l' List.mem_cons_self))
  | cons l ls ih =>
    -- A line on one side only would have to be the line of the digest on the other.
    cases ls' with
    | nil => exact absurd h.symm (tailText_nil_ne_cons hd' (hls l List.mem_cons_self))
    | cons l' ls' =>
      rw [tailText_cons_append, tailText_cons_append] at h
      obtain ⟨rfl, hrest⟩ := Line.eq_of_text_append_eq (hls l List.mem_cons_self)
        (hls' l' List.mem_cons_self) h
      obtain ⟨rfl, hdd, hss⟩ := ih (fun m hm => hls m (List.mem_cons_of_mem _ hm))
        (fun m hm => hls' m (List.mem_cons_of_mem _ hm)) hrest
      exact ⟨rfl, hdd, hss⟩

/-- The first word of the covered fields and the digest ends at a colon or a line feed. -/
theorem exists_word_of_tailText {ls : List Line} {d : Option Text} (s : Text)
    (hls : ∀ l ∈ ls, l.WellFormed) (hd : IsDigest d) :
    ∃ word c rest, tailText ls d ++ s = word ++ c :: rest ∧
      (∀ x ∈ word, endsWord x = false) ∧ (c = ':' ∨ c = '\n') := by
  cases ls with
  | nil => exact ⟨_, _, _, tailText_nil_append d s, endsWord_of_isDigest hd, Or.inr rfl⟩
  | cons l ls =>
    refine ⟨l.name, ':', ' ' :: l.value ++ '\n' :: (tailText ls d ++ s), ?_,
      endsWord_of_isToken (hls l List.mem_cons_self).name, Or.inl rfl⟩
    rw [tailText_cons_append, Line.text_append]

/-! ### Method and target -/

/-- Path and query as the first line of a request has them. -/
def Request.targetText (r : Request) : Text :=
  r.path ++ match r.query with
    | none => []
    | some q => '?' :: q

theorem Request.text_append (r : Request) (s : Text) :
    r.text ++ s =
      r.method ++ ' ' :: (r.targetText ++ '\n' :: (tailText r.lines r.digest ++ s)) := by
  cases hq : r.query <;> simp [Request.text, Request.startLine, Request.targetText, hq]

theorem Request.WellFormed.newline_not_mem_targetText {r : Request} (hr : r.WellFormed) :
    '\n' ∉ r.targetText := by
  have hquery := hr.query
  rw [Request.targetText, List.mem_append]
  rintro (hpath | hmem)
  · exact hr.path.2 hpath
  · cases hq : r.query with
    | none => simp [hq] at hmem
    | some q =>
      rw [hq] at hmem hquery
      rcases List.mem_cons.mp hmem with hc | hc
      · exact absurd hc (by decide)
      · exact hquery q rfl hc

/-- A path ends at its first `?`, and no `?` is not the same as nothing behind it. -/
theorem Request.eq_of_targetText_eq {r r' : Request} (hr : '?' ∉ r.path) (hr' : '?' ∉ r'.path)
    (h : r.targetText = r'.targetText) : r.path = r'.path ∧ r.query = r'.query := by
  rw [Request.targetText, Request.targetText] at h
  cases hq : r.query with
  | none =>
    cases hq' : r'.query with
    | none => simpa [hq, hq'] using h
    | some q' =>
      rw [hq, hq', List.append_nil] at h
      exact absurd (h ▸ List.mem_append_right _ List.mem_cons_self) hr
  | some q =>
    cases hq' : r'.query with
    | none =>
      rw [hq, hq', List.append_nil] at h
      exact absurd (h ▸ List.mem_append_right _ List.mem_cons_self) hr'
    | some q' =>
      rw [hq, hq'] at h
      obtain ⟨hpath, rfl⟩ := Text.append_sep_inj hr hr' h
      exact ⟨hpath, rfl⟩

/-- **A canonical request is found in front of whatever follows it.** -/
theorem Request.eq_of_text_append_eq {r r' : Request} {s s' : Text} (hr : r.WellFormed)
    (hr' : r'.WellFormed) (h : r.text ++ s = r'.text ++ s') : r = r' ∧ s = s' := by
  rw [Request.text_append, Request.text_append] at h
  -- The method ends at its first space, the target at the first line feed.
  obtain ⟨hmethod, -, hrest⟩ := Text.append_cons_inj (endsWord_of_isToken hr.method)
    (endsWord_of_isToken hr'.method) (by decide) (by decide) h
  obtain ⟨htarget, htail⟩ := Text.append_sep_inj hr.newline_not_mem_targetText
    hr'.newline_not_mem_targetText hrest
  obtain ⟨hpath, hquery⟩ := Request.eq_of_targetText_eq hr.path.1 hr'.path.1 htarget
  obtain ⟨hlines, hdigest, hs⟩ :=
    eq_of_tailText_append_eq hr.lines hr'.lines hr.digest hr'.digest htail
  refine ⟨?_, hs⟩
  cases r
  cases r'
  cases hmethod
  cases hpath
  cases hquery
  cases hlines
  cases hdigest
  rfl

/-- **The text of a request is never the beginning of the text of a response**: the first word
of a request ends at a space. -/
theorem Request.text_append_ne {r : Request} {r' : Response} {s s' : Text} (hr : r.WellFormed)
    (hr' : r'.WellFormed) : r.text ++ s ≠ r'.text ++ s' := by
  intro h
  obtain ⟨word, c, rest, htext, hword, hc⟩ := exists_word_of_tailText s' hr'.lines hr'.digest
  rw [Request.text_append, Response.text, htext] at h
  have hends : endsWord c = true := by rcases hc with rfl | rfl <;> decide
  obtain ⟨-, hsep, -⟩ :=
    Text.append_cons_inj (endsWord_of_isToken hr.method) hword (by decide) hends h
  rcases hc with rfl | rfl
  · exact absurd hsep (by decide)
  · exact absurd hsep (by decide)

/-! ### Messages -/

namespace Message

/-- **A signed text belongs to one message and one time.** -/
theorem eq_of_signedText_eq {m m' : Message} {t t' : Int64} (hm : m.WellFormed)
    (hm' : m'.WellFormed) (h : m.signedText t = m'.signedText t') : m = m' ∧ t = t' := by
  cases m with
  | request r =>
    cases m' with
    | request r' =>
      obtain ⟨rfl, htime⟩ := Request.eq_of_text_append_eq hm hm' h
      exact ⟨rfl, Decimal.ofInt_toInt_injective htime⟩
    | response r' => exact absurd h (Request.text_append_ne hm hm')
  | response r =>
    cases m' with
    | request r' => exact absurd h.symm (Request.text_append_ne hm' hm)
    | response r' =>
      obtain ⟨hlines, hdigest, htime⟩ :=
        eq_of_tailText_append_eq hm.lines hm'.lines hm.digest hm'.digest h
      cases r
      cases r'
      cases hlines
      cases hdigest
      exact ⟨rfl, Decimal.ofInt_toInt_injective htime⟩

/-- **What is signed is unambiguous**: messages with the same signed text are of one kind, agree
part by part, and were signed at the same time. In particular nothing that is signed for a
request is ever signed for a response. -/
theorem signedText_unambiguous :
    (∀ (m m' : Message) (t t' : Int64), m.WellFormed → m'.WellFormed →
      m.signedText t = m'.signedText t' → m = m' ∧ t = t') ∧
    ∀ (r : Request) (r' : Response) (t t' : Int64), r.WellFormed → r'.WellFormed →
      (request r).signedText t ≠ (response r').signedText t' :=
  ⟨fun _ _ _ _ hm hm' h => eq_of_signedText_eq hm hm' h,
    fun _ _ _ _ hr hr' => Request.text_append_ne hr hr'⟩

/-- A request with an empty query, and a response that has a field named like the method of the
request: their texts differ in nothing but a colon and the question mark. -/
theorem signedText_unambiguous_up_to_colon :
    let r : Request := ⟨"GET".toList, "/".toList, some [], [⟨"a".toList, "b: c".toList⟩], none⟩
    let r' : Response := ⟨[⟨"GET".toList, "/".toList⟩, ⟨"a".toList, "b: c".toList⟩], none⟩
    (request r).WellFormed ∧ (response r').WellFormed ∧
      ((request r).signedText 7 = "GET /?\na: b: c\n\n7".toList ∧
        (response r').signedText 7 = "GET: /\na: b: c\n\n7".toList) ∧
      (request r = request r ∧ (7 : Int64) = 7) ∧
      (request r).signedText 7 ≠ (response r').signedText 7 := by
  intro r r'
  have hr : r.WellFormed := by decide
  have hr' : r'.WellFormed := by decide
  refine ⟨hr, hr', by decide, ?_, ?_⟩
  · exact signedText_unambiguous.1 (request r) (request r) 7 7 hr hr rfl
  · exact signedText_unambiguous.2 r r' 7 7 hr hr'

end Message

end Countersign.Canonical
