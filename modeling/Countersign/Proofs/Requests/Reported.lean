import Countersign.Proofs.Credentials.Carried

/-!
# What a caller reports

A caller that has signed a request reports the credentials it has put into the field. What
is read from that field is the same credentials exactly if the names of partner and key
are plain (`Countersign.Caller.reported_as_read`): visible, without commas, not blank, and
with no blank at the end.

Signing asks for less. It needs a key of that name, and a text that *some* field value can
hold, and a field value can hold every character that is no control
(`Countersign.Caller.exists_sign_eq_ok_iff`). So there are names in which one can sign and never
be admitted (`Countersign.Caller.reported_and_not_read`); whether a request was signed in such a
name shows only where it arrives.

| in a name | signing | reading |
|---|---|---|
| a control other than the tab | fails | |
| a character outside of ASCII | succeeds | is refused |
| a comma, a blank at the end, nothing but blanks | succeeds | gives another name, or none |
-/

namespace Countersign.Caller

open Http

variable {client : Caller} {now : Int64} {head : Head} {body : Bytes}

/-- **Whether signing succeeds** is decided by the caller alone: it takes a key that is known and
two names that fit into a field. -/
theorem exists_sign_eq_ok_iff :
    (∃ h fields, client.sign now head body = (.ok h, fields)) ↔
      (client.ring.find? ⟨client.partner, client.key⟩).isSome ∧
        ∀ x ∈ client.partner ++ client.key, isCarriable x = true := by
  have hnames : ∀ n ∈ client.coveredNames head, IsToken n := fun _ hn =>
    isToken_of_mem_coveredNames hn
  constructor
  · rintro ⟨h, fields, hsign⟩
    obtain ⟨secret, v, hsecret, rfl, hv, -⟩ := sign_eq_ok_iff.mp hsign
    exact ⟨Option.isSome_iff_exists.mpr ⟨secret, hsecret⟩,
      (Credentials.exists_ofText?_complete_iff hnames secret _ now).mp ⟨v, hv⟩⟩
  · rintro ⟨hknown, hcarriable⟩
    obtain ⟨secret, hsecret⟩ := Option.isSome_iff_exists.mp hknown
    obtain ⟨v, hv⟩ := (Credentials.exists_ofText?_complete_iff hnames secret
      (.covering (client.coveredNames head) head body) now).mpr hcarriable
    exact ⟨_, _, sign_eq_ok_iff.mpr ⟨secret, v, hsecret, rfl, hv, rfl⟩⟩

/-- **Where signing fails, the request stays as it was.** -/
theorem fields_of_sign_eq_error {f : Fault} {fields : Fields}
    (h : client.sign now head body = (.error f, fields)) : fields = head.fields := by
  simp only [sign] at h
  split at h
  · exact (Prod.mk.inj h).2.symm
  · split at h
    · exact (Prod.mk.inj h).2.symm
    · exact absurd (Prod.mk.inj h).1 (by simp)

/-- **What is read is what was reported** exactly if both names are plain: names that were read are
plain, and plain names are read back. -/
theorem ofRequest_sign_eq_ok_iff {h : Credentials} {fields : Fields}
    (hsign : client.sign now head body = (.ok h, fields)) :
    Credentials.ofRequest fields = .ok h ↔
      Credentials.IsPlain client.partner ∧ Credentials.IsPlain client.key := by
  obtain ⟨secret, v, -, rfl, hv, rfl⟩ := sign_eq_ok_iff.mp hsign
  constructor
  · intro hread
    obtain ⟨w, -, hw⟩ := Credentials.ofRequest_eq_ok_iff.mp hread
    exact ⟨Credentials.isPlain_of_read hw (p := .partner) trivial rfl,
      Credentials.isPlain_of_read hw (p := .key) trivial rfl⟩
  · rintro ⟨hpartner, hkey⟩
    obtain ⟨w, hw, hread⟩ := Credentials.exists_carried hpartner hkey
      (fun _ hn => isToken_of_mem_coveredNames hn) secret
      (.covering (client.coveredNames head) head body) now
    obtain rfl := Option.some.inj (hv.symm.trans hw)
    exact Credentials.ofRequest_eq_ok_iff.mpr ⟨v, Carrier.values_set _ _ _, hread _⟩

/-- **What a caller reports and what is read.** If signing fails, the request stays as it was. If it
succeeds, the request has one `Authorization` field, which holds the text of the credentials that
are reported; and what is read from the request is these credentials exactly if the names of partner
and key are plain. -/
theorem reported_as_read (client : Caller) (now : Int64) (head : Head) (body : Bytes) :
    match client.sign now head body with
    | (.error _, fields) => fields = head.fields
    | (.ok h, fields) =>
      (∃ v, Carrier.authorization.values fields = [v] ∧ FieldValue.ofText? h.text = some v) ∧
        (Credentials.ofRequest fields = .ok h ↔
          Credentials.IsPlain client.partner ∧ Credentials.IsPlain client.key) := by
  rcases hsign : client.sign now head body with ⟨f | h, fields⟩
  · exact fields_of_sign_eq_error hsign
  · refine ⟨?_, ofRequest_sign_eq_ok_iff hsign⟩
    obtain ⟨secret, v, -, -, hv, rfl⟩ := sign_eq_ok_iff.mp hsign
    exact ⟨v, Carrier.values_set _ _ _, hv⟩

/-- **A name that can be signed in and not be read**: one with an accent in it. -/
theorem reported_and_not_read :
    let ring := KeyRing.ofList [(⟨"b\u00f3b".toList, "1".toList⟩, [0x6B])]
    let client : Caller := ⟨ring, "b\u00f3b".toList, "1".toList, []⟩
    let head : Head := ⟨⟨"GET".toList, by decide⟩,
      ⟨[], "/a".toList, none, by decide, by decide⟩, []⟩
    ∃ h fields, client.sign 5 head [] = (.ok h, fields) ∧ h.partner = some "b\u00f3b".toList ∧
      Credentials.ofRequest fields = .error (.notVisible .authorization) := by
  intro ring client head
  have hsign : (client.sign 5 head []).1 = .ok (Credentials.complete "b\u00f3b".toList "1".toList []
      5 "35ad35bee9f5b54a5457c026f6485208c9970c89f2b48de3acdf7028da437c18".toList) := by
    decide +kernel
  refine ⟨_, _, Prod.ext hsign rfl, rfl, ?_⟩
  decide +kernel

end Countersign.Caller
