import Countersign.Proofs.Signature

/-!
# What signing does to a record of credentials

Signing goes ahead before it knows whether it will succeed: scheme and time are filled in
first, and only then is the signature computed, which can fail. So a failure leaves traces,
and this file says which.

| | signing succeeds | signing fails |
|---|---|---|
| partner, key, covered names, remark | as before | as before |
| scheme, time | as before, or filled in | as before, or filled in |
| signature | that of the message | as before, be it stale |
| what is reported | nothing | the fault of computing the signature, wrapped |

Two facts carry it. What was filled in is not filled in again
(`Countersign.Credentials.begun_begun`), and the signature that a record holds has no part in
the one that is computed for it (`Countersign.Credentials.signature?_with_signature`). So a
record that was signed passes the check of its message, which asks no clock, under its own
signature and under no other; and signing it again gives it back, whatever the time is by
then (`Countersign.Credentials.signing_settles_credentials`).
-/

namespace Countersign.Credentials

/-! ### What is filled in -/

section Begun

variable (c : Credentials) (now later : Int64)

/-- **What was filled in stays**, because only what is not set is filled in. -/
@[simp] theorem begun_begun : (c.begun now).begun later = c.begun now := by
  rw [begun, begun, Option.or_assoc, Option.or_assoc, Option.some_or, Option.some_or]

theorem begun_with_signature (s : Option Text) :
    ({ c with signature := s } : Credentials).begun now = { c.begun now with signature := s } := rfl

theorem timestamp_begun : (c.begun now).timestamp = some (c.timestamp.getD now) := by
  cases h : c.timestamp with
  | none => simp [begun, h]
  | some time => simp [begun, h]

theorem scheme_begun_eq_iff :
    (c.begun now).scheme = some supportedScheme ↔ ∀ s, c.scheme = some s → s = supportedScheme := by
  cases h : c.scheme with
  | none => simp [begun, h]
  | some s => simp [begun, h]

end Begun

/-! ### Whether there is a signature -/

/-- Credentials that nothing can be signed with: they ask for another scheme, or there is no key
for the names in them. -/
def IsUnfit (c : Credentials) (ring : KeyRing) : Prop :=
  (∃ s, c.scheme = some s ∧ s ≠ supportedScheme) ∨ c.partner = none ∨ c.key = none ∨
    ∃ partner key, c.partner = some partner ∧ c.key = some key ∧ ring.find? ⟨partner, key⟩ = none

section Sign

variable {c : Credentials} {ring : KeyRing} {now : Int64} {m : Canonical.Message}

theorem signature?_with_signature (s : Option Text) :
    ({ c with signature := s } : Credentials).signature? ring m = c.signature? ring m := rfl

/-- **With scheme and time filled in**, there is a signature unless the credentials are unfit. -/
theorem exists_signature?_begun_iff :
    (∃ s, (c.begun now).signature? ring m = .ok s) ↔ ¬c.IsUnfit ring := by
  constructor
  · rintro ⟨s, hs⟩
    obtain ⟨hscheme, time, partner, key, secret, -, hp, hk, hsecret, -⟩ :=
      signature?_eq_ok_iff.mp hs
    replace hp : c.partner = some partner := hp
    replace hk : c.key = some key := hk
    rintro (⟨scheme, hset, hne⟩ | hnone | hnone | ⟨partner', key', hp', hk', hnone⟩)
    · exact hne ((scheme_begun_eq_iff c now).mp hscheme scheme hset)
    · exact absurd (hp.symm.trans hnone) (by simp)
    · exact absurd (hk.symm.trans hnone) (by simp)
    · obtain rfl := Option.some.inj (hp.symm.trans hp')
      obtain rfl := Option.some.inj (hk.symm.trans hk')
      exact absurd (hsecret.symm.trans hnone) (by simp)
  · intro h
    simp only [IsUnfit, not_or, not_exists, not_and, not_not] at h
    obtain ⟨hscheme, hpartner, hkey, hknown⟩ := h
    obtain ⟨partner, hp⟩ := Option.ne_none_iff_exists'.mp hpartner
    obtain ⟨key, hk⟩ := Option.ne_none_iff_exists'.mp hkey
    obtain ⟨secret, hsecret⟩ := Option.ne_none_iff_exists'.mp (hknown partner key hp hk)
    exact ⟨_, signature?_eq_ok_iff.mpr ⟨(scheme_begun_eq_iff c now).mpr hscheme, _, partner, key,
      secret, timestamp_begun c now, hp, hk, hsecret, rfl⟩⟩

/-- **Of all signatures in one place**, the check lets the one pass that is computed. -/
theorem check_with_signature {s : Text} (h : c.signature? ring m = .ok s) (given : Option Text) :
    ({ c with signature := given } : Credentials).check ring m =
      if given = some s then .ok () else .error .badSignature := by
  obtain ⟨-, time, -, -, secret, -, -, -, -, rfl⟩ := signature?_eq_ok_iff.mp h
  rw [check, signature?_with_signature, h]
  cases given with
  | none =>
    -- A missing signature is compared as the empty text, which no signature is.
    have hne : signatureOf secret m time ≠ [] := List.ne_nil_of_length_pos (by simp)
    simp [hne]
  | some s => simp [eq_comm]

/-! ### What signing leaves -/

theorem sign_of_signature?_eq_ok {s : Text} (h : (c.begun now).signature? ring m = .ok s) :
    c.sign ring now m = (.ok (), { c.begun now with signature := some s }) := by
  rw [sign, h]

theorem sign_of_signature?_eq_error {f : Fault}
    (h : (c.begun now).signature? ring m = .error f) :
    c.sign ring now m = (.error (.notSigned f), c.begun now) := by
  rw [sign, h]

/-- **Signing leaves what was filled in**, and touches the signature at most. -/
theorem sign_snd_eq :
    (c.sign ring now m).2 =
      { c.begun now with signature := (c.sign ring now m).2.signature } := by
  cases h : (c.begun now).signature? ring m with
  | ok s => rw [sign_of_signature?_eq_ok h]
  | error f => rw [sign_of_signature?_eq_error h]

/-- Signing fails for want of a signature. -/
theorem exists_sign_fst_eq_error_iff :
    (∃ f, (c.sign ring now m).1 = .error f) ↔ c.IsUnfit ring := by
  have hfit : (∃ s, (c.begun now).signature? ring m = .ok s) ↔ ¬c.IsUnfit ring :=
    exists_signature?_begun_iff
  cases h : (c.begun now).signature? ring m with
  | ok s => simp [sign_of_signature?_eq_ok h, hfit.mp ⟨s, h⟩]
  | error f =>
    have hunfit : c.IsUnfit ring := by
      by_contra hnot
      obtain ⟨s, hs⟩ := hfit.mpr hnot
      exact absurd (h.symm.trans hs) (by simp)
    simp [sign_of_signature?_eq_error h, hunfit]

/-- **A failure** is that of computing the signature, and takes no signature away. -/
theorem exists_cause_of_sign_fst_eq_error {f : Fault} (hf : (c.sign ring now m).1 = .error f) :
    ∃ cause, (c.sign ring now m).2.signature? ring m = .error cause ∧ f = .notSigned cause ∧
      (c.sign ring now m).2.signature = c.signature := by
  cases h : (c.begun now).signature? ring m with
  | ok s => simp [sign_of_signature?_eq_ok h] at hf
  | error cause =>
    rw [sign_of_signature?_eq_error h] at hf ⊢
    exact ⟨cause, h, (Except.error.inj hf).symm, rfl⟩

/-- A success leaves the signature that is computed, with what was filled in. -/
theorem exists_signature_of_sign_fst_eq_ok (hok : (c.sign ring now m).1 = .ok ()) :
    ∃ s, (c.begun now).signature? ring m = .ok s ∧
      (c.sign ring now m).2 = { c.begun now with signature := some s } := by
  cases h : (c.begun now).signature? ring m with
  | ok s => exact ⟨s, rfl, congrArg Prod.snd (sign_of_signature?_eq_ok h)⟩
  | error f => simp [sign_of_signature?_eq_error h] at hok

/-- **What was signed passes**, and with another signature it does not. -/
theorem check_sign_with_signature (hok : (c.sign ring now m).1 = .ok ()) (given : Option Text) :
    ({ (c.sign ring now m).2 with signature := given } : Credentials).check ring m =
      if given = (c.sign ring now m).2.signature then .ok () else .error .badSignature := by
  obtain ⟨s, hs, hsigned⟩ := exists_signature_of_sign_fst_eq_ok hok
  rw [hsigned]
  exact check_with_signature hs given

/-- **What was signed is not changed by signing it again.** -/
theorem sign_sign (hok : (c.sign ring now m).1 = .ok ()) (later : Int64) :
    (c.sign ring now m).2.sign ring later m = (.ok (), (c.sign ring now m).2) := by
  obtain ⟨s, hs, hsigned⟩ := exists_signature_of_sign_fst_eq_ok hok
  have hagain : ({ c.begun now with signature := some s } : Credentials).begun later =
      { c.begun now with signature := some s } := by
    rw [begun_with_signature, begun_begun]
  have hsignature : (({ c.begun now with signature := some s } : Credentials).begun
      later).signature? ring m = .ok s := by
    rw [hagain, signature?_with_signature, hs]
  rw [hsigned, sign_of_signature?_eq_ok hsignature, hagain]

/-- **Signing settles a record of credentials**, whatever is in it before. Partner, key, covered
names and remark stay in every case, and scheme and time are filled in where they are not set.
Signing fails exactly with credentials that are unfit; it reports the fault of computing a
signature for what it leaves, wrapped, and leaves the signature that was there. Where it succeeds,
the record passes the check of the message, which asks no clock; with anything else in the place of
its signature, or nothing, it does not; and signing it again gives it back at any time. -/
theorem signing_settles_credentials (c : Credentials) (ring : KeyRing) (now : Int64)
    (m : Canonical.Message) :
    let signed := c.sign ring now m
    let h := signed.2
    (h.partner = c.partner ∧ h.key = c.key ∧ h.signedNames = c.signedNames ∧
        h.canonicalize = c.canonicalize ∧ h.scheme = c.scheme.or (some supportedScheme) ∧
        h.timestamp = c.timestamp.or (some now)) ∧
      ((∃ f, signed.1 = .error f) ↔ c.IsUnfit ring) ∧
      (∀ f, signed.1 = .error f → ∃ cause, h.signature? ring m = .error cause ∧
        f = .notSigned cause ∧ f.kind = .callerConfiguration ∧ f.cause? = some cause ∧
        h.signature = c.signature) ∧
      (signed.1 = .ok () → h.check ring m = .ok () ∧
        (∀ s, s ≠ h.signature →
          ({ h with signature := s } : Credentials).check ring m = .error .badSignature) ∧
        ∀ later, h.sign ring later m = (.ok (), h)) := by
  intro signed h
  refine ⟨?_, exists_sign_fst_eq_error_iff, fun f hf => ?_, fun hok => ⟨?_, fun s hs => ?_, ?_⟩⟩
  · rw [show h = { c.begun now with signature := h.signature } from sign_snd_eq]
    exact ⟨rfl, rfl, rfl, rfl, rfl, rfl⟩
  · obtain ⟨cause, hcause, rfl, hsignature⟩ := exists_cause_of_sign_fst_eq_error hf
    exact ⟨cause, hcause, rfl, rfl, rfl, hsignature⟩
  · exact (check_sign_with_signature hok h.signature).trans (if_pos rfl)
  · exact (check_sign_with_signature hok s).trans (if_neg hs)
  · exact sign_sign hok

/-- A record with a time of its own and a stale signature, under a known key: the time stays, the
signature is replaced, and the stale one does not pass. -/
theorem signing_settles_credentials_of_stale_signature :
    let ring := KeyRing.ofList [(⟨"bob".toList, "1".toList⟩, [7])]
    let m : Canonical.Message := .response ⟨[], none⟩
    let c : Credentials := { forKey "bob".toList "1".toList with
      timestamp := some 3
      signature := some "stale".toList }
    let h := (c.sign ring 9 m).2
    h.timestamp = some 3 ∧ h.check ring m = .ok () ∧
      ({ h with signature := some "stale".toList } : Credentials).check ring m =
        .error .badSignature ∧
      h.sign ring 10 m = (.ok (), h) := by
  intro ring m c h
  obtain ⟨⟨-, -, -, -, -, htime⟩, hfails, -, hsucceeds⟩ := signing_settles_credentials c ring 9 m
  have hfit : ¬c.IsUnfit ring := by
    rintro (⟨s, hs, -⟩ | hnone | hnone | ⟨partner, key, hp, hk, hnone⟩)
    · exact absurd (show none = some s from hs) (by simp)
    · exact absurd hnone (by decide)
    · exact absurd hnone (by decide)
    · obtain rfl := Option.some.inj hp
      obtain rfl := Option.some.inj hk
      exact absurd hnone (by decide)
  have hok : (c.sign ring 9 m).1 = .ok () := by
    cases hfst : (c.sign ring 9 m).1 with
    | error f => exact absurd (hfails.mp ⟨f, hfst⟩) hfit
    | ok u => rfl
  obtain ⟨hcheck, hother, hagain⟩ := hsucceeds hok
  obtain ⟨s, hs, hsigned⟩ := exists_signature_of_sign_fst_eq_ok hok
  obtain ⟨-, time, -, -, secret, -, -, -, -, rfl⟩ := signature?_eq_ok_iff.mp hs
  refine ⟨htime, hcheck, hother _ fun hstale => ?_, hagain 10⟩
  -- Signatures are longer than that.
  have hlength := length_signatureOf secret m time
  rw [hsigned] at hstale
  rw [← Option.some.inj hstale] at hlength
  exact absurd hlength (by decide)

/-- A signature of before survives a failure, next to a scheme and a time that were filled in. -/
example (ring : KeyRing) (m : Canonical.Message) (stale : Text) :
    ({ empty with partner := some ['p'], signature := some stale } : Credentials).sign ring 7 m =
      (.error (.notSigned .keyNotNamed),
        { empty with
          scheme := some supportedScheme
          partner := some ['p']
          timestamp := some 7
          signature := some stale }) := rfl

end Sign

end Countersign.Credentials
