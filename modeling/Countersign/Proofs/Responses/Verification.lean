import Countersign.Proofs.Credentials.Carried
import Countersign.Proofs.Serving.Reading
import Countersign.Proofs.Steps

/-!
# Signed responses hold

The gate answers a request in the name of the partner that the request names, under
the key that it names. The names come from text that somebody else wrote, the list of
fields to sign from a configuration, the fields themselves from an application – and
still, if only the key is known, the response can be signed and carried
(`Countersign.Serving.exists_countersign_eq`), goes out as signed
(`Countersign.Serving.Gate.answer_serve`), and holds for everyone who has the same key
(`Countersign.KeyRing.checkResponse_eq_ok_iff`).

There is one exception: an application that sets the field for the signature itself, and
a configuration that has this field signed. The gate then signs the value that it is
about to replace.
-/

namespace Countersign

open Http

/-! ### Checking a response -/

namespace KeyRing

variable {ring : KeyRing} {status : Status} {fields : Fields} {body : Bytes} {c : Credentials}

/-- Once there are complete credentials, their signature decides. -/
theorem checkResponse_of_read {v : FieldValue} (hv : Carrier.signedResponse.values fields = [v])
    (hread : Carrier.signedResponse.read v = .ok c) (hmissing : c.missing = []) :
    ring.checkResponse status fields body =
      (c.check ring (.response (.of c.signedNames fields body))).map fun _ => c := by
  simp only [checkResponse, hv, hread, ok_bind]
  rw [if_neg (not_not_intro hmissing)]
  cases c.check ring (.response (.of c.signedNames fields body)) <;> rfl

/-- **When a response holds**: it has one field with complete credentials, and they are right. -/
theorem checkResponse_eq_ok_iff :
    ring.checkResponse status fields body = .ok c ↔
      ∃ v, Carrier.signedResponse.values fields = [v] ∧ Carrier.signedResponse.read v = .ok c ∧
        c.missing = [] ∧
        c.check ring (.response (.of c.signedNames fields body)) = .ok () := by
  constructor
  · intro h
    rw [checkResponse] at h
    split at h
    next v hvalues =>
      obtain ⟨d, hread, h⟩ := bind_eq_ok_iff.mp h
      by_cases hmissing : d.missing = []
      · rw [if_neg (not_not_intro hmissing), bind_eq_ok_iff] at h
        obtain ⟨u, hcheck, hd⟩ := h
        obtain rfl := Except.ok.inj hd
        exact ⟨v, hvalues, hread, hmissing, hcheck⟩
      · -- Incomplete credentials are refused before anything is computed.
        rw [if_pos hmissing] at h
        exact absurd h throw_bind_ne_ok
    next => exact absurd h (by simp [throw, throwThe, MonadExceptOf.throw])
  · rintro ⟨v, hv, hread, hmissing, hcheck⟩
    rw [checkResponse_of_read hv hread hmissing, hcheck]
    rfl

end KeyRing

namespace Serving

/-! ### Signing a response -/

/-- **A response can be signed** in every name that was read from a request, if the key is known:
the credentials are complete, and a field can carry them. -/
theorem exists_countersign_eq {ring : KeyRing} {fields : Fields} {asked : Credentials}
    {partner key : Text} {secret : Bytes} (hasked : Credentials.ofRequest fields = .ok asked)
    (hpartner : asked.partner = some partner) (hkey : asked.key = some key)
    (hsecret : ring.find? ⟨partner, key⟩ = some secret) (now : Int64) (names : List Text)
    (answered : Fields) (body : Bytes) :
    ∃ c v, countersign ring now asked names answered body = .ok c ∧
      c = Credentials.complete partner key (Canonical.occurring answered names) now
        (signatureOf secret (.response
          (.of (Canonical.occurring answered names) answered body)) now) ∧
      FieldValue.ofText? c.text = some v ∧ Carrier.signedResponse.read v = .ok c := by
  obtain ⟨v, -, hread⟩ := Credentials.ofRequest_eq_ok_iff.mp hasked
  have hplain : Credentials.IsPlain partner ∧ Credentials.IsPlain key :=
    ⟨Credentials.isPlain_of_read hread (p := .partner) trivial hpartner,
      Credentials.isPlain_of_read hread (p := .key) trivial hkey⟩
  have htoken : ∀ n ∈ Canonical.occurring answered names, IsToken n := fun n hn =>
    Fields.isToken_of_has (Canonical.mem_occurring_iff.mp hn).2
  obtain ⟨w, hw, hcarried⟩ := Credentials.exists_carried hplain.1 hplain.2 htoken secret
    (.response (.of (Canonical.occurring answered names) answered body)) now
  refine ⟨_, w, ?_, rfl, hw, hcarried _⟩
  rw [countersign, hpartner, hkey]
  -- Credentials for a key are what the gate begins with, once both names are known.
  have hsign := Credentials.sign_forKey hsecret (Canonical.occurring answered names) now
    (.response (.of (Canonical.occurring answered names) answered body))
  simp only [Credentials.forKey] at hsign
  rw [hsign]

/-- A response that can be signed goes out as signed. -/
theorem Gate.answer_serve {ρ : Type} {g : Gate} {now : Int64} {app : Application ρ} {r : Request}
    {response : Response} {asked c : Credentials} {v : FieldValue}
    (hasked : Credentials.ofRequest r.fields = .ok asked)
    (hanswer : ((app r.toHead).run g.toPolicy now (Exchange.arrival r)).1.1 = .ok response)
    (hbody : response.body.IsSound)
    (hsigned : countersign g.ring now asked g.names response.fields response.body.bytes = .ok c)
    (hcarried : FieldValue.ofText? c.text = some v) :
    (g.serve now app r).1.1 = .ok ⟨.signed, response.status,
      response.fields.set Carrier.signedResponse.fieldName v, .ofBytes response.body.bytes⟩ := by
  obtain ⟨w, hvalues, -⟩ := Credentials.ofRequest_eq_ok_iff.mp hasked
  have hcredentials : hasCredentials r.toHead = true :=
    Fields.has_iff.mpr (List.ne_nil_of_mem (hvalues ▸ List.mem_cons_self))
  obtain ⟨trailers, hcollect⟩ := Body.exists_collect_eq hbody
  simp only [serve_eq, attended_eq, hanswer, hcredentials, if_true, finish_of_body, hcollect, sign,
    hasked, hsigned, hcarried]
  rfl

/-- **Signed responses hold.** To any request with credentials that can be read and whose key is
known, whatever the application answers in a sound body goes out signed: in the name of the
partner and under the key of the request, covering the configured names that the response has,
in one field. And the signature holds for everyone with the same key, unless the configuration
asks to sign the very field that carries it and the application had set that field. -/
theorem signed_response_holds {ρ : Type} (g : Gate) (now : Int64) (app : Application ρ)
    (r : Request) (asked : Credentials) (partner key : Text) (secret : Bytes) (response : Response)
    (hasked : Credentials.ofRequest r.fields = .ok asked) (hpartner : asked.partner = some partner)
    (hkey : asked.key = some key) (hsecret : g.ring.find? ⟨partner, key⟩ = some secret)
    (hanswer : ((app r.toHead).run g.toPolicy now (Exchange.arrival r)).1.1 = .ok response)
    (hbody : response.body.IsSound) :
    ∃ c v answer, countersign g.ring now asked g.names response.fields response.body.bytes = .ok c ∧
      c.partner = some partner ∧ c.key = some key ∧
      c.signedNames = g.names.filter response.fields.has ∧
      FieldValue.ofText? c.text = some v ∧
      (g.serve now app r).1.1 = .ok answer ∧ answer.outcome = .signed ∧
      answer.response.status = response.status ∧
      answer.response.body.bytes = response.body.bytes ∧
      Carrier.signedResponse.values answer.response.fields = [v] ∧
      ((response.fields.has Carrier.signedResponse.name = false ∨
          ∀ n ∈ g.names, Text.lower n ≠ Text.lower Carrier.signedResponse.name) →
        ∀ ring : KeyRing, ring.find? ⟨partner, key⟩ = some secret →
          ring.checkResponse answer.response.status answer.response.fields
            answer.response.body.bytes = .ok c) := by
  obtain ⟨c, v, hsigned, hc, hcarried, hread⟩ := exists_countersign_eq hasked hpartner hkey hsecret
    now g.names response.fields response.body.bytes
  refine ⟨c, v, _, hsigned, ?_, ?_, ?_, hcarried,
    Gate.answer_serve hasked hanswer hbody hsigned hcarried, rfl, rfl, Body.bytes_ofBytes _,
    Carrier.values_set _ _ _, ?_⟩
  · rw [hc]
    rfl
  · rw [hc]
    rfl
  · rw [hc]
    rfl
  intro hfield ring hring
  refine KeyRing.checkResponse_eq_ok_iff.mpr ⟨v, Carrier.values_set _ _ _, hread, ?_, ?_⟩
  · rw [hc]
    exact Credentials.missing_complete _ _ _ _ _
  · -- The fields that are checked have one more than those that were signed.
    have hcovered : Canonical.covered (response.fields.set Carrier.signedResponse.fieldName v)
        c.signedNames = Canonical.covered response.fields c.signedNames := by
      rw [hc]
      exact Canonical.covered_set (Carrier.lower_ne_of_mem_occurring hfield)
    rw [Body.bytes_ofBytes, Canonical.Response.of, hcovered, hc]
    exact Credentials.check_complete hring _ now _

/-- A request that names a partner and a key and gives no signature, an application that sets the
field for the signature itself, and a configuration with a name in two spellings, one that is
no name, and one that the response lacks. -/
theorem signed_response_holds_of_named_key :
    let ring := KeyRing.ofList [(⟨"bob".toList, "1".toList⟩, [])]
    let g : Gate := ⟨⟨ring, 300⟩,
      ["Content-Type".toList, "content-type".toList, "a b".toList, "X".toList]⟩
    let r : Request := ⟨⟨⟨"GET".toList, by decide⟩, ⟨[], "/".toList, none, by decide, by decide⟩,
      [(Carrier.authorization.fieldName,
        ⟨Utf8.encode "x partner-id=bob, key-id=1".toList, List.all_eq_true.mp (by decide)⟩)]⟩, []⟩
    let response : Response := ⟨⟨200⟩,
      [(FieldName.contentType, ⟨[0xC3, 0x28], List.all_eq_true.mp (by decide)⟩),
      (Carrier.signedResponse.fieldName, ⟨[0xFF], List.all_eq_true.mp (by decide)⟩)],
      [.piece (.data [1]), .pending, .piece (.trailers []), .piece (.data [2])]⟩
    ∃ c answer, (g.serve 5 (fun _ => pure (.ok response, ())) r).1.1 = .ok answer ∧
      answer.outcome = .signed ∧ c.signedNames = ["Content-Type".toList, "content-type".toList] ∧
      ring.checkResponse answer.response.status answer.response.fields [1, 2] = .ok c := by
  intro ring g r response
  have hsound : response.body.IsSound := fun m hm => by simp [response] at hm
  obtain ⟨c, v, answer, -, -, -, hnames, -, hserve, houtcome, -, hbody, -, hcheck⟩ :=
    signed_response_holds g 5 (fun _ => pure (.ok response, ())) r
      ⟨some "x".toList, some "bob".toList, some "1".toList, [], none, none, none⟩ "bob".toList
      "1".toList [] response (by decide +kernel) rfl rfl (by decide) rfl hsound
  have hchecked := hcheck (Or.inr (by decide)) ring (by decide)
  rw [hbody] at hchecked
  exact ⟨c, answer, hserve, houtcome, hnames, hchecked⟩

end Serving

end Countersign
