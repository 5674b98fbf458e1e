import Countersign.Proofs.Requests.Reported
import Countersign.Proofs.Serving.Reading

/-!
# Honest requests are accepted

A caller with a known key and a plain name signs whatever it wants to send, and a
server with the same key in front of any application admits it, as long as the two
clocks are not too far apart. The two sides go different ways to the same text:

| | the caller | the server |
|---|---|---|
| names that do not occur | are dropped | would be refused |
| the body | is at hand | arrives in portions |
| the `Authorization` field | is not there yet | is there |

That the names agree is `Countersign.Canonical.covered_occurring`, that the bodies do is
`Countersign.Serving.Gate.report_serve_checking`, and the new field is covered by no name
that the caller declares (`Countersign.Canonical.covered_set`).
-/

namespace Countersign

open Http Serving

namespace Caller

section Plain

variable {client : Caller} (hpartner : Credentials.IsPlain client.partner)
  (hkey : Credentials.IsPlain client.key)

include hpartner hkey

/-- A caller with a known key and a plain name can sign anything. -/
theorem exists_sign_eq {secret : Bytes}
    (hsecret : client.ring.find? ⟨client.partner, client.key⟩ = some secret) (t : Int64)
    (head : Head) (body : Bytes) : ∃ c fields, client.sign t head body = (.ok c, fields) := by
  refine exists_sign_eq_ok_iff.mpr ⟨Option.isSome_iff_exists.mpr ⟨secret, hsecret⟩, fun x hx => ?_⟩
  refine FieldValue.isCarriable_of_isVisible ?_
  rcases List.mem_append.mp hx with hx | hx
  · exact hpartner.visible x hx
  · exact hkey.visible x hx

/-- **The verdict on a signed request** is that its signer is admitted, wherever the key is the
same and the time is in the window. -/
theorem verdict_of_sign {t : Int64} {head : Head} {body : Bytes} {c : Credentials}
    {fields : Fields} (hsign : client.sign t head body = (.ok c, fields))
    (hfield : head.fields.has Carrier.authorization.name = false ∨
      ∀ n ∈ client.names, Text.lower n ≠ Text.lower Carrier.authorization.name)
    {policy : Policy} {now : Int64}
    (hring : policy.ring.find? ⟨client.partner, client.key⟩ =
      client.ring.find? ⟨client.partner, client.key⟩)
    (hwindow : distance now t ≤ policy.window.toNat) :
    policy.verdict now { head with fields := fields } body = .ok ⟨c, client.partner⟩ := by
  obtain ⟨secret, v, hsecret, rfl, hv, rfl⟩ := sign_eq_ok_iff.mp hsign
  -- The value that was set is the one that credentials are read back from.
  obtain ⟨v', hv', hread⟩ := Credentials.exists_carried hpartner hkey
    (fun _ hn => isToken_of_mem_coveredNames hn) secret
    (.covering (client.coveredNames head) head body) t
  obtain rfl := Option.some.inj (hv.symm.trans hv')
  have hother : ∀ n ∈ client.coveredNames head,
      Text.lower n ≠ Carrier.authorization.fieldName.text :=
    Carrier.lower_ne_of_mem_occurring hfield
  refine Policy.verdict_eq_ok_iff.mpr ⟨?_, ?_, ?_⟩
  · exact Credentials.ofRequest_eq_ok_iff.mpr ⟨v, Carrier.values_set _ _ _, hread _⟩
  · intro n hn
    rw [Canonical.has_set_of_ne (hother n hn)]
    exact (Canonical.mem_occurring_iff.mp hn).2
  · refine admission_eq_ok_iff.mpr ⟨client.partner, client.key, t, secret, rfl, rfl, rfl, rfl, rfl,
      hwindow, hring.trans hsecret, ?_⟩
    -- The server computes the message with the new field, the caller did without.
    rw [← Canonical.Message.covering_set hother head v body]
    rfl

end Plain

end Caller

namespace Serving

/-- **Honestly signed requests are accepted.** Signing succeeds at any time, and whoever reads the
request to its end and then checks it, at a time in the window, is told who signed it – in
whatever portions the body comes. -/
theorem admitted_of_signed (client : Caller) (head : Head) (body : Bytes) (t : Int64)
    (secret : Bytes) (hsecret : client.ring.find? ⟨client.partner, client.key⟩ = some secret)
    (hpartner : Credentials.IsPlain client.partner) (hkey : Credentials.IsPlain client.key)
    (hfield : head.fields.has Carrier.authorization.name = false ∨
      ∀ n ∈ client.names, Text.lower n ≠ Text.lower Carrier.authorization.name) :
    ∃ c fields, client.sign t head body = (.ok c, fields) ∧
      ∀ (g : Gate) (now : Int64) (frames : Body) {α : Type} (read : Head → Program α)
        (go : Head → α → Except Fault Admitted → Program (Except Failure Response)),
        g.ring.find? ⟨client.partner, client.key⟩ = some secret →
        (now.toInt - t.toInt).natAbs ≤ g.window.toNat → frames.bytes = body →
        (read { head with fields := fields }).ReadsToEnd g.toPolicy now
          ⟨{ head with fields := fields }, frames⟩ →
        (g.serve now (checking read go) ⟨{ head with fields := fields }, frames⟩).1.2 =
          .ok ⟨c, client.partner⟩ := by
  obtain ⟨c, fields, hsign⟩ := Caller.exists_sign_eq hpartner hkey hsecret t head body
  refine ⟨c, fields, hsign, ?_⟩
  intro g now frames α read go hring hwindow hframes hend
  rw [Gate.report_serve_checking g now read go _ hend, hframes]
  exact Caller.verdict_of_sign hpartner hkey hsign hfield (hring.trans hsecret.symm) hwindow

/-- A key that is shared, a body in three portions with a pause, trailers and an empty portion
between them, a name with blanks in it, and the two clocks apart as far as they may be. -/
theorem admitted_of_signed_in_portions :
    let ring := KeyRing.ofList [(⟨"bob and co".toList, "1".toList⟩, [0x73, 0x00, 0xFF])]
    let client : Caller :=
      ⟨ring, "bob and co".toList, "1".toList, ["Content-Type".toList, "X".toList]⟩
    let g : Gate := ⟨⟨ring, 300⟩, []⟩
    let target : Target := ⟨[], "/a".toList, some [], by decide, by decide⟩
    let head : Head := ⟨⟨"POST".toList, by decide⟩, target,
      [(FieldName.contentType, ⟨[0x20, 0xC3, 0x28, 0x09], List.all_eq_true.mp (by decide)⟩)]⟩
    let frames : Body := [.piece (.data [0x7B]), .pending, .piece (.data []), .piece (.trailers []),
      .piece (.data [0x7D])]
    let app := checking (fun _ => Ask.rest.once) fun _ _ _ => pure (.error (.other []))
    ∃ c fields, client.sign (-200) head [0x7B, 0x7D] = (.ok c, fields) ∧
      (g.serve 100 app ⟨{ head with fields := fields }, frames⟩).1.2 =
        .ok ⟨c, client.partner⟩ := by
  intro ring client g target head frames app
  obtain ⟨c, fields, hsign, hadmitted⟩ := admitted_of_signed client head [0x7B, 0x7D] (-200)
    [0x73, 0x00, 0xFF] (by decide)
    ⟨⟨by decide, by decide, by decide⟩, List.all_eq_true.mp (by decide)⟩
    ⟨⟨by decide, by decide, by decide⟩, List.all_eq_true.mp (by decide)⟩ (Or.inl (by decide))
  refine ⟨c, fields, hsign, hadmitted g 100 frames _ _ (by decide) (by decide) (by decide) ?_⟩
  refine Program.readsToEnd_rest g.toPolicy 100 fun m hm => ?_
  simp [frames] at hm

end Serving

end Countersign
