import Countersign.Proofs.Canonical.Coverage

/-!
# The three ways agree

A name that does not occur is taken off the list by a request that is about to be sent,
refused by a request that has arrived, and passed over by a response. Whatever is declared
and whatever fields there are, the three come to one canonical message
(`Countersign.Canonical.builders_agree`).

* What is left of the list are the names that occur, in their order, in their case, and as
  often as they were declared.
* With that list, the request that arrives has the message of the request that was sent, as
  long as the fields that arrive have the same values under the names on it.
* With the list as it was declared, it is refused, unless nothing was taken off; and the
  name it is refused for is the first that was.
* A response has the same lines with either list.

All of it rests on the walks of `Countersign.Canonical.retained` and
`Countersign.Canonical.required` having one result
(`Countersign.Canonical.retained_eq`, `Countersign.Canonical.required_eq_ok`), and on lines
being lines of values (`Countersign.Canonical.required_congr`).
-/

namespace Countersign.Canonical

open Http

/-- A name occurs if there is a field of that name, whatever the case of its letters. -/
def Occurs (fields : Fields) (name : Text) : Prop := ∃ f ∈ fields, f.1.text = Text.lower name

instance (fields : Fields) (name : Text) : Decidable (Occurs fields name) :=
  inferInstanceAs (Decidable (∃ f ∈ fields, f.1.text = Text.lower name))

theorem has_iff_occurs {fields : Fields} {name : Text} :
    fields.has name = true ↔ Occurs fields name := by
  rw [Fields.has_iff]
  constructor
  · intro h
    obtain ⟨v, hv⟩ := List.exists_mem_of_ne_nil _ h
    obtain ⟨n, hn, htext⟩ := Fields.mem_values_iff.mp hv
    exact ⟨(n, v), hn, htext⟩
  · rintro ⟨⟨n, v⟩, hn, htext⟩
    exact List.ne_nil_of_mem (Fields.mem_values_iff.mpr ⟨n, hn, htext⟩)

/-- Where the values under all declared names are the same, so is what becomes of the names. -/
theorem required_congr {fields fields' : Fields} {names : List Text}
    (h : ∀ n ∈ names, fields'.values n = fields.values n) :
    required fields' names = required fields names := by
  induction names with
  | nil => rfl
  | cons name names ih =>
    have hlines : linesOf fields' name = linesOf fields name := by
      rw [linesOf, linesOf, h name List.mem_cons_self]
    rw [required, required, hlines, ih fun n hn => h n (List.mem_cons_of_mem name hn)]

/-- **A request that arrives is taken by its declared fields**: with other fields that have the same
values under the declared names, it has the same message, or is refused for the same name. -/
theorem Request.received_congr {head : Head} {names : List Text} {fields : Fields}
    (h : ∀ n ∈ names, fields.values n = head.fields.values n) (digest : Option Text) :
    received { head with fields := fields } names digest = received head names digest := by
  rw [received, received, required_congr h]
  rfl

theorem occurring_eq_filter (fields : Fields) (names : List Text) :
    occurring fields names = names.filter (Occurs fields) := by
  refine List.filter_congr fun n _ => ?_
  rw [Bool.eq_iff_iff, decide_eq_true_iff, has_iff_occurs]

/-- **The names that are left** are all names exactly if all of them occur. -/
theorem occurring_eq_self_iff {fields : Fields} {names : List Text} :
    occurring fields names = names ↔ ∀ n ∈ names, fields.has n = true := List.filter_eq_self

/-- **What was sent is what arrives**, with the names that were left and fields that have the same
values under them. -/
theorem Request.received_occurring {head : Head} {names : List Text} {fields : Fields}
    (h : ∀ n ∈ occurring head.fields names, fields.values n = head.fields.values n)
    (digest : Option Text) :
    received { head with fields := fields } (occurring head.fields names) digest =
      .ok (.of head names digest) := by
  rw [received_congr h]
  refine received_eq_ok_iff.mpr ⟨fun n hn => (mem_occurring_iff.mp hn).2, ?_⟩
  rw [of, of, covered_occurring]

/-- **The three builders agree.** What a request about to be sent leaves of the declared names are
those that occur. With these, a request that arrives has the very message that was sent, if its
fields have the same values under them. With all declared names it has a message exactly if none
was taken off, and otherwise it is refused for the first one that does not occur. A response has
the lines and the digest of the message that was sent, with either list. -/
theorem builders_agree (head : Head) (names : List Text) (body : Bytes) :
    let sent := (Request.outgoing head names body).1
    let kept := (Request.outgoing head names body).2
    kept = names.filter (Occurs head.fields) ∧
      (∀ fields : Fields, (∀ n ∈ kept, fields.values n = head.fields.values n) →
        Request.received { head with fields := fields } kept (Digest.ofBytes body) = .ok sent) ∧
      (∀ digest : Option Text,
        ((∃ r, Request.received head names digest = .ok r) ↔ kept = names) ∧
        (kept ≠ names → ∃ before name after, names = before ++ name :: after ∧
          (∀ n ∈ before, Occurs head.fields n) ∧ ¬Occurs head.fields name ∧
          Request.received head names digest = .error (.coveredFieldAbsent name))) ∧
      Response.of names head.fields body = ⟨sent.lines, sent.digest⟩ ∧
      Response.of kept head.fields body = ⟨sent.lines, sent.digest⟩ := by
  intro sent kept
  have hsent : sent = .of head names (Digest.ofBytes body) :=
    congrArg Prod.fst (Request.outgoing_eq head names body)
  have hkept : kept = occurring head.fields names :=
    congrArg Prod.snd (Request.outgoing_eq head names body)
  refine ⟨?_, ?_, fun digest => ⟨?_, fun hne => ?_⟩, ?_, ?_⟩
  · rw [hkept, occurring_eq_filter]
  · intro fields h
    rw [hkept, hsent]
    exact Request.received_occurring (hkept ▸ h) _
  · rw [hkept, occurring_eq_self_iff]
    exact ⟨fun ⟨r, hr⟩ => (Request.received_eq_ok_iff.mp hr).1,
      fun hall => ⟨_, Request.received_eq_ok_iff.mpr ⟨hall, rfl⟩⟩⟩
  · rcases forall_has_or_exists_first head.fields names with hall | ⟨before, name, after, h, hb, hn⟩
    · exact absurd (hkept.trans (occurring_eq_self_iff.mpr hall)) hne
    · refine ⟨before, name, after, h, fun n hmem => has_iff_occurs.mp (hb n hmem), ?_, ?_⟩
      · rw [← has_iff_occurs, hn]
        exact Bool.noConfusion
      · exact Request.received_eq_error_iff.mpr ⟨before, name, after, h, hb, hn, rfl⟩
  · rw [hsent]
    rfl
  · rw [hsent, hkept, Response.of, covered_occurring]
    rfl

end Countersign.Canonical
