import Countersign.Proofs.Serving.Reading

/-!
# Accepted requests are as they were signed

Whoever intercepts a signed request can send any other one with the same signature: the
names the credentials list, the time they give, every field and every byte of the body
are theirs to choose. If the server admits what they send, it is nevertheless the
request that was signed, in all that the signature is meant to cover
(`Countersign.Serving.as_signed_of_admitted`).

Nothing is assumed of the hash functions beyond this one pair of requests: that their
keyed hashes differ if their signed texts do, and the hashes of their bodies if the
bodies do.
-/

namespace Countersign.Serving

open Http

/-- **Tampering is noticed.** A request that is admitted under the signature of another one – its
signer's key being the same on both sides – has the method, the path, the query, the time, the
body and the covered lines of the one that was signed. -/
theorem as_signed_of_admitted (client : Caller) (t : Int64) (head : Head) (body : Bytes)
    (h : Credentials) (hsign : (client.sign t head body).1 = .ok h) (g : Gate) (now : Int64)
    (r : Request) (h' : Credentials) {α : Type} (read : Head → Program α)
    (go : Head → α → Except Fault Admitted → Program (Except Failure Response)) (secret : Bytes)
    (hclient : client.ring.find? ⟨client.partner, client.key⟩ = some secret)
    (hserver : g.ring.find? ⟨client.partner, client.key⟩ = some secret)
    (hreceived : Credentials.ofRequest r.fields = .ok h') (hpartner : h'.partner = h.partner)
    (hkey : h'.key = h.key) (hsignature : h'.signature = h.signature)
    (hread : (read r.toHead).ReadsToEnd g.toPolicy now r)
    (hadmitted : ∃ a, (g.serve now (checking read go) r).1.2 = .ok a)
    (hmac : Hmac.mac secret (Utf8.encode (h.signedText head body)) =
        Hmac.mac secret (Utf8.encode (h'.signedText r.toHead r.body.bytes)) →
      h.signedText head body = h'.signedText r.toHead r.body.bytes)
    (hash : Sha256.hash body = Sha256.hash r.body.bytes → body = r.body.bytes) :
    head.method = r.method ∧ head.target.path = r.target.path ∧
      head.target.query = r.target.query ∧ h.timestamp = h'.timestamp ∧ body = r.body.bytes ∧
      Canonical.covered head.fields h.signedNames = Canonical.covered r.fields h'.signedNames := by
  -- What the signer did, and what the server found.
  obtain ⟨secret₁, v, hsecret₁, rfl, -, -⟩ := Caller.sign_eq_ok_iff.mp (Prod.ext hsign rfl)
  obtain rfl := Option.some.inj (hsecret₁.symm.trans hclient)
  obtain ⟨a, hverdict⟩ := hadmitted
  rw [Gate.report_serve_checking g now read go r hread] at hverdict
  obtain ⟨hcredentials, -, hadmission⟩ := Policy.verdict_eq_ok_iff.mp hverdict
  obtain rfl := Except.ok.inj (hreceived.symm.trans hcredentials)
  obtain ⟨partner, key, time, secret₂, -, -, hp, hk, htime, -, hsecret₂, hs⟩ :=
    admission_eq_ok_iff.mp hadmission
  -- Both signatures were made under one secret, because they name one key.
  obtain rfl := Option.some.inj (hp.symm.trans hpartner)
  obtain rfl := Option.some.inj (hk.symm.trans hkey)
  obtain rfl := Option.some.inj (hsecret₂.symm.trans hserver)
  -- So they are of one text, which can be read in one way only.
  have htexts := hmac
  rw [Credentials.signedText, Credentials.signedText, htime] at htexts
  obtain ⟨hmessage, rfl⟩ := eq_of_signatureOf_eq (Canonical.Message.wellFormed_covering _ _ _)
    (Canonical.Message.wellFormed_covering _ _ _) htexts
    (Option.some.inj (hsignature.symm.trans hs))
  obtain ⟨hmethod, hpath, hquery, hlines, hbody⟩ :=
    Canonical.Message.eq_of_covering_eq hash hmessage
  exact ⟨hmethod, hpath, hquery, htime.symm, hbody, hlines⟩

/-- A signed request that is passed on with a remark in its credentials, one more field, blanks
around a signed value, and its body in portions. -/
theorem as_signed_of_admitted_rewritten :
    let ring := KeyRing.ofList [(⟨"bob".toList, "1".toList⟩, [0x6B])]
    let client : Caller := ⟨ring, "bob".toList, "1".toList, ["Content-Type".toList, "X".toList]⟩
    let g : Gate := ⟨⟨ring, 10⟩, []⟩
    let method : Method := ⟨"POST".toList, by decide⟩
    let target : Target := ⟨[], "/a".toList, some "b".toList, by decide, by decide⟩
    let head : Head := ⟨method, target,
      [(FieldName.contentType, ⟨[0x61], List.all_eq_true.mp (by decide)⟩)]⟩
    let h := Credentials.complete "bob".toList "1".toList ["Content-Type".toList] 5
      (Hex.encode [0x02, 0xBC, 0xDC, 0x8F, 0x08, 0x75, 0x73, 0x72, 0xE6, 0x4E, 0x18, 0xB0, 0x91,
        0x06, 0xB3, 0xDD, 0x77, 0x5C, 0xA8, 0x61, 0xE9, 0xF7, 0x5B, 0xA3, 0xA8, 0x35, 0x86, 0x11,
        0x9F, 0xF6, 0x0F, 0xD1])
    let h' : Credentials := { h with canonicalize := some true }
    let r : Request := ⟨⟨method, target,
      [(⟨"y".toList, by decide, by decide⟩, ⟨[], List.all_eq_true.mp (by decide)⟩),
      (Carrier.authorization.fieldName,
        ⟨Utf8.encode h'.text, List.all_eq_true.mp (by decide +kernel)⟩),
      (FieldName.contentType, ⟨[0x20, 0x61, 0x09], List.all_eq_true.mp (by decide)⟩)]⟩,
      [.piece (.data [1]), .pending, .piece (.data [2])]⟩
    let read : Head → Program (Except Text Bytes) := fun _ => Ask.rest.once
    let go : Head → Except Text Bytes → Except Fault Admitted → Program (Except Failure Response) :=
      fun _ _ _ => pure (.error (.other []))
    (client.sign 5 head [1, 2]).1 = .ok h ∧
      (g.serve 15 (checking read go) r).1.2 = .ok ⟨h', "bob".toList⟩ ∧
      Canonical.covered head.fields h.signedNames = Canonical.covered r.fields h'.signedNames := by
  intro ring client g method target head h h' r read go
  have hsign : (client.sign 5 head [1, 2]).1 = .ok h := by decide +kernel
  have hadmitted : (g.serve 15 (checking read go) r).1.2 = .ok ⟨h', "bob".toList⟩ := by
    decide +kernel
  have hsound : r.body.IsSound := fun m hm => by simp [r] at hm
  have hread : (read r.toHead).ReadsToEnd g.toPolicy 15 r :=
    Program.readsToEnd_rest g.toPolicy 15 hsound
  have hverdict : g.verdict 15 r.toHead r.body.bytes = .ok ⟨h', "bob".toList⟩ :=
    (Gate.report_serve_checking g 15 read go r hread).symm.trans hadmitted
  have hreceived : Credentials.ofRequest r.fields = .ok h' :=
    (Policy.verdict_eq_ok_iff.mp hverdict).1
  have htext : h.signedText head [1, 2] = h'.signedText r.toHead r.body.bytes := by decide +kernel
  refine ⟨hsign, hadmitted, ?_⟩
  obtain ⟨-, -, -, -, -, hlines⟩ := as_signed_of_admitted client 5 head [1, 2] h hsign g
    15 r h' read go [0x6B] (by decide) (by decide) hreceived rfl rfl rfl hread ⟨_, hadmitted⟩
    (fun _ => htext) (fun _ => rfl)
  exact hlines

end Countersign.Serving
