import Countersign.Proofs.Canonical.Multiplicity
import Countersign.Proofs.Serving.Settling

/-!
# What became of the signed fields

Someone who passes a signed request on may rewrite the list of covered names, because the
list is not signed: only the lines that it makes are. If the request is admitted
nevertheless, every field that its signer covered has kept its values – up to how often
its name is listed (`Countersign.Serving.signed_fields_as_signed`).

The exception is real. A name that is listed twice stands for two lines even if its field
occurs once, so one of two equal fields can be taken away and its name listed once more
(`Countersign.Serving.equal_field_taken_away`). What cannot be done is to change a
value, to make values change places, or to have other fields covered instead.

Nothing is asked of the application here: it may check the request at any moment. What it
has read by then decides on the digest, and the digest has no part in this.
-/

namespace Countersign.Serving

open Http Canonical

/-- **One signature, one message**: a request that the verdict admits under the signature of another
one has the covered lines and the time of the one that was signed. -/
theorem covered_eq_of_verdict {client : Caller} {t : Int64} {head : Head} {body : Bytes}
    {h : Credentials} (hsign : (client.sign t head body).1 = .ok h) {policy : Policy} {now : Int64}
    {received : Head} {seen : Bytes} {h' : Credentials} {secret : Bytes} {a : Admitted}
    (hclient : client.ring.find? ⟨client.partner, client.key⟩ = some secret)
    (hserver : policy.ring.find? ⟨client.partner, client.key⟩ = some secret)
    (hreceived : Credentials.ofRequest received.fields = .ok h') (hpartner : h'.partner = h.partner)
    (hkey : h'.key = h.key) (hsignature : h'.signature = h.signature)
    (hverdict : policy.verdict now received seen = .ok a)
    (hmac : Hmac.mac secret (Utf8.encode (h.signedText head body)) =
        Hmac.mac secret (Utf8.encode (h'.signedText received seen)) →
      h.signedText head body = h'.signedText received seen) :
    covered head.fields h.signedNames = covered received.fields h'.signedNames ∧
      h.timestamp = h'.timestamp := by
  obtain ⟨secret₁, v, hsecret₁, rfl, -, -⟩ := Caller.sign_eq_ok_iff.mp (Prod.ext hsign rfl)
  obtain rfl := Option.some.inj (hsecret₁.symm.trans hclient)
  obtain ⟨hcredentials, -, hadmission⟩ := Policy.verdict_eq_ok_iff.mp hverdict
  obtain rfl := Except.ok.inj (hreceived.symm.trans hcredentials)
  obtain ⟨partner, key, time, secret₂, -, -, hp, hk, htime, -, hsecret₂, hs⟩ :=
    admission_eq_ok_iff.mp hadmission
  -- Both signatures were made under one secret, because they name one key.
  obtain rfl := Option.some.inj (hp.symm.trans hpartner)
  obtain rfl := Option.some.inj (hk.symm.trans hkey)
  obtain rfl := Option.some.inj (hsecret₂.symm.trans hserver)
  rw [Credentials.signedText, Credentials.signedText, htime] at hmac
  obtain ⟨hmessage, rfl⟩ := eq_of_signatureOf_eq (Message.wellFormed_covering _ _ _)
    (Message.wellFormed_covering _ _ _) hmac (Option.some.inj (hsignature.symm.trans hs))
  exact ⟨congrArg Request.lines (Message.request.inj hmessage), htime.symm⟩

/-- **Signed fields keep their values, up to how often they are listed.** If a request is admitted
under the signature of another one, at whatever moment it is checked, then every name that its
signer covered is still covered, and the signed values of its field, once for each time that the
signer listed it, are the received values, once for each time that it is listed now. So a name that
is listed as often as it was has the values that were signed, as many of them and in that order.

The check may come when only a beginning of the body has been read; the two texts that the keyed
hash must tell apart are the one that was signed and the one that was checked. -/
theorem signed_fields_as_signed (client : Caller) (t : Int64) (head : Head) (body : Bytes)
    (h : Credentials) (hsign : (client.sign t head body).1 = .ok h) (g : Gate) (now : Int64)
    (r : Http.Request) (h' : Credentials) {α : Type} (before : Head → Program α)
    (go : Head → α → Except Fault Admitted → Program (Except Failure Http.Response))
    (secret : Bytes) (hclient : client.ring.find? ⟨client.partner, client.key⟩ = some secret)
    (hserver : g.ring.find? ⟨client.partner, client.key⟩ = some secret)
    (hreceived : Credentials.ofRequest r.fields = .ok h') (hpartner : h'.partner = h.partner)
    (hkey : h'.key = h.key) (hsignature : h'.signature = h.signature)
    (hbefore : (before r.toHead).Asks Ask.IsModest)
    (hadmitted : ∃ a, (g.serve now (checking before go) r).1.2 = .ok a) :
    ∃ seen, seen <+: r.body.bytes ∧
      (g.serve now (checking before go) r).1.2 = g.verdict now r.toHead seen ∧
      ((Hmac.mac secret (Utf8.encode (h.signedText head body)) =
          Hmac.mac secret (Utf8.encode (h'.signedText r.toHead seen)) →
        h.signedText head body = h'.signedText r.toHead seen) →
      ∀ n ∈ h.signedNames, n ∈ h'.signedNames ∧
        (List.replicate (h.signedNames.count n) (signedValues head.fields n)).flatten =
          (List.replicate (h'.signedNames.count n) (signedValues r.fields n)).flatten ∧
        (h.signedNames.count n = h'.signedNames.count n →
          signedValues head.fields n = signedValues r.fields n)) := by
  obtain ⟨seen, hseen, htold⟩ := Gate.exists_verdict_of_checking g now before go r hbefore
  obtain ⟨a, ha⟩ := hadmitted
  refine ⟨seen, hseen, htold, fun hmac n hn => ?_⟩
  obtain ⟨hlines, -⟩ := covered_eq_of_verdict hsign hclient hserver hreceived hpartner hkey
    hsignature (htold.symm.trans ha) hmac
  -- A signer covers no name that does not occur.
  have hoccurs : head.fields.has n = true := by
    obtain ⟨secret₁, v, -, rfl, -, -⟩ := Caller.sign_eq_ok_iff.mp (Prod.ext hsign rfl)
    exact (mem_occurring_iff.mp hn).2
  exact ⟨mem_of_covered_eq hlines hn hoccurs, replicate_signedValues_eq hlines n,
    signedValues_eq_of_count_eq hlines hn⟩

/-- A field with two values that is listed twice, and arrives with four values, listed once; and a
check in the middle of a body that somebody has made longer. -/
theorem signed_fields_as_signed_listed_once :
    let ring := KeyRing.ofList [(⟨"bob".toList, "1".toList⟩, [0x6B])]
    let client : Caller := ⟨ring, "bob".toList, "1".toList, ["X".toList, "Y".toList, "X".toList]⟩
    let g : Gate := ⟨⟨ring, 10⟩, []⟩
    let method : Method := ⟨"PUT".toList, by decide⟩
    let target : Target := ⟨[], "/a".toList, none, by decide, by decide⟩
    let name : FieldName := ⟨"x".toList, by decide, by decide⟩
    let a : FieldValue := ⟨[0x61], List.all_eq_true.mp (by decide)⟩
    let b : FieldValue := ⟨[0x62], List.all_eq_true.mp (by decide)⟩
    let padded : FieldValue := ⟨[0x20, 0x62], List.all_eq_true.mp (by decide)⟩
    let head : Head := ⟨method, target, [(name, a), (name, b)]⟩
    let h := Credentials.complete "bob".toList "1".toList ["X".toList, "X".toList] 5
      "8933be70f5d816cf61754e3c7e167ba737712e20c768658e6cde25d48eac4c5e".toList
    let h' : Credentials := { h with signedNames := ["X".toList] }
    let r : Http.Request := ⟨⟨method, target, [(name, a), (name, padded),
      (Carrier.authorization.fieldName,
        ⟨Utf8.encode h'.text, List.all_eq_true.mp (by decide +kernel)⟩), (name, a), (name, b)]⟩,
      [.piece (.data [1]), .piece (.data [2])]⟩
    let before : Head → Program (Option Piece) := fun _ => Ask.piece.once
    let go : Head → Option Piece → Except Fault Admitted → Program (Except Failure Http.Response) :=
      fun _ _ _ => pure (.error (.other []))
    (client.sign 5 head [1]).1 = .ok h ∧
      (g.serve 15 (checking before go) r).1.2 = .ok ⟨h', "bob".toList⟩ ∧
      (List.replicate 2 (signedValues head.fields "X".toList)).flatten =
        (List.replicate 1 (signedValues r.fields "X".toList)).flatten := by
  intro ring client g method target name a b padded head h h' r before go
  have hsign : (client.sign 5 head [1]).1 = .ok h := by decide +kernel
  have hadmitted : (g.serve 15 (checking before go) r).1.2 = .ok ⟨h', "bob".toList⟩ := by
    decide +kernel
  have hreceived : Credentials.ofRequest r.fields = .ok h' := by decide +kernel
  obtain ⟨seen, hseen, htold, hfields⟩ := signed_fields_as_signed client 5 head [1] h hsign g 15 r
    h' before go [0x6B] (by decide) (by decide) hreceived rfl rfl rfl ⟨trivial, fun _ => trivial⟩
    ⟨_, hadmitted⟩
  -- What has been read at the check is the first of the two portions.
  obtain rfl : seen = [1] := by
    have hverdict : g.verdict 15 r.toHead seen = .ok _ := htold.symm.trans hadmitted
    have hcases : seen = [] ∨ ∃ u, seen = 1 :: u ∧ (u = [] ∨ u = [2]) := by
      simpa [r, Body.bytes, Frame.bytes, Piece.bytes, List.prefix_cons_iff] using hseen
    rcases hcases with rfl | ⟨u, rfl, rfl | rfl⟩
    · exact absurd hverdict (by decide +kernel)
    · rfl
    · exact absurd hverdict (by decide +kernel)
  have htext : h.signedText head [1] = h'.signedText r.toHead [1] := by decide +kernel
  exact ⟨hsign, hadmitted, (hfields (fun _ => htext) "X".toList (by decide)).2.1⟩

/-- **Fields can be taken away**: of two equal fields one is missing, and its name is listed once
more. The signature holds for both requests, because they have the same lines. -/
theorem equal_field_taken_away :
    let ring := KeyRing.ofList [(⟨"bob".toList, "1".toList⟩, [0x6B])]
    let client : Caller := ⟨ring, "bob".toList, "1".toList, ["X".toList]⟩
    let g : Gate := ⟨⟨ring, 10⟩, []⟩
    let method : Method := ⟨"GET".toList, by decide⟩
    let target : Target := ⟨[], "/a".toList, none, by decide, by decide⟩
    let name : FieldName := ⟨"x".toList, by decide, by decide⟩
    let a : FieldValue := ⟨[0x61], List.all_eq_true.mp (by decide)⟩
    let head : Head := ⟨method, target, [(name, a), (name, a)]⟩
    let h := Credentials.complete "bob".toList "1".toList ["X".toList] 5
      "7cf229760955c783f9727e67969768f11d03c791bf5978c0a12ba182161d43aa".toList
    let h' : Credentials := { h with signedNames := ["X".toList, "X".toList] }
    let r : Http.Request := ⟨⟨method, target, [(name, a), (Carrier.authorization.fieldName,
      ⟨Utf8.encode h'.text, List.all_eq_true.mp (by decide +kernel)⟩)]⟩, []⟩
    let app := checking (fun _ => Ask.rest.once) fun _ _ _ => pure (.error (.other []))
    (client.sign 5 head []).1 = .ok h ∧ Credentials.ofRequest r.fields = .ok h' ∧
      h'.partner = h.partner ∧ h'.key = h.key ∧ h'.signature = h.signature ∧
      (g.serve 5 app r).1.2 = .ok ⟨h', "bob".toList⟩ ∧
      h.signedText head [] = h'.signedText r.toHead [] ∧ "X".toList ∈ h.signedNames ∧
      signedValues head.fields "X".toList = ["a".toList, "a".toList] ∧
      signedValues r.fields "X".toList = ["a".toList] := by
  refine ⟨?_, ?_, rfl, rfl, rfl, ?_, ?_, ?_, ?_, ?_⟩
  all_goals decide +kernel

end Countersign.Serving
