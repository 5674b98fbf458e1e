import Countersign.Caller
import Countersign.Proofs.Canonical.Coverage

/-!
# Signing and checking

Both ends compute the same thing: the signature of a message, given a scheme, a time
and a key (`Countersign.signatureOf`). Signing succeeds exactly if the key is known,
and then leaves complete credentials (`Countersign.Credentials.sign_forKey`,
`Countersign.Caller.sign_eq_ok_iff`); checking succeeds exactly if the signature is
the one that signing makes (`Countersign.Credentials.check_eq_ok_iff`). A signature that
holds for one message holds for no other (`Countersign.Credentials.check_eq_ite`).
-/

namespace Countersign

open Http

/-- The signature of a message and a time under a secret. -/
def signatureOf (secret : Bytes) (m : Canonical.Message) (time : Int64) : Text :=
  Hex.encode (Hmac.mac secret (Utf8.encode (m.signedText time)))

@[simp] theorem length_signatureOf (secret : Bytes) (m : Canonical.Message) (time : Int64) :
    (signatureOf secret m time).length = 64 := by
  rw [signatureOf, Hex.length_encode, Hmac.length_mac]

/-- **Equal signatures belong to one message and one time**, as far as the keyed hash tells the two
signed texts apart. -/
theorem eq_of_signatureOf_eq {secret : Bytes} {m m' : Canonical.Message} {t t' : Int64}
    (hm : m.WellFormed) (hm' : m'.WellFormed)
    (hmac : Hmac.mac secret (Utf8.encode (m.signedText t)) =
      Hmac.mac secret (Utf8.encode (m'.signedText t')) → m.signedText t = m'.signedText t')
    (h : signatureOf secret m t = signatureOf secret m' t') : m = m' ∧ t = t' :=
  Canonical.Message.eq_of_signedText_eq hm hm' (hmac (Hex.encode_injective h))

namespace Credentials

/-- The text that credentials on a request are the signature of, if its body is the given one. -/
def signedText (c : Credentials) (head : Head) (body : Bytes) : Text :=
  (Canonical.Message.covering c.signedNames head body).signedText (c.timestamp.getD 0)

/-- Credentials with all that a signature needs. -/
def complete (partner key : Text) (names : List Text) (time : Int64) (signature : Text) :
    Credentials :=
  { forKey partner key with
    scheme := some supportedScheme
    signedNames := names
    timestamp := some time
    signature := some signature }

@[simp] theorem missing_complete (partner key : Text) (names : List Text) (time : Int64)
    (signature : Text) : (complete partner key names time signature).missing = [] := rfl

/-- There is a signature exactly if scheme, time and key are there. -/
theorem signature?_eq_ok_iff {c : Credentials} {ring : KeyRing} {m : Canonical.Message}
    {s : Text} :
    c.signature? ring m = .ok s ↔
      c.scheme = some supportedScheme ∧ ∃ time partner key secret,
        c.timestamp = some time ∧ c.partner = some partner ∧ c.key = some key ∧
          ring.find? ⟨partner, key⟩ = some secret ∧ s = signatureOf secret m time := by
  rw [signature?]
  by_cases hne : c.scheme ≠ some supportedScheme
  · simp [hne]
  rw [if_neg hne]
  have hscheme : c.scheme = some supportedScheme := Decidable.not_not.mp hne
  cases ht : c.timestamp with
  | none => simp
  | some time =>
    cases hp : c.partner with
    | none => simp
    | some partner =>
      cases hk : c.key with
      | none => simp
      | some key =>
        cases hs : ring.find? ⟨partner, key⟩ with
        | none => simp [KeyRing.mac?, hs]
        | some secret => simp [KeyRing.mac?, hs, hscheme, signatureOf, eq_comm]

/-- **Signing under a known key succeeds** and leaves complete credentials. -/
theorem sign_forKey {ring : KeyRing} {partner key : Text} {secret : Bytes}
    (hsecret : ring.find? ⟨partner, key⟩ = some secret) (names : List Text) (now : Int64)
    (m : Canonical.Message) :
    ({ forKey partner key with signedNames := names } : Credentials).sign ring now m =
      (.ok (), complete partner key names now (signatureOf secret m now)) := by
  have hsign : (({ forKey partner key with signedNames := names } : Credentials).begun
      now).signature? ring m = .ok (signatureOf secret m now) :=
    signature?_eq_ok_iff.mpr ⟨rfl, now, partner, key, secret, rfl, rfl, rfl, hsecret, rfl⟩
  rw [sign, hsign]
  rfl

/-- Signing under an unknown key fails. -/
theorem sign_forKey_of_unknown {ring : KeyRing} {partner key : Text}
    (hsecret : ring.find? ⟨partner, key⟩ = none) (names : List Text) (now : Int64)
    (m : Canonical.Message) :
    ({ forKey partner key with signedNames := names } : Credentials).sign ring now m =
      (.error (.notSigned (.keyUnknown ⟨partner, key⟩)),
        ({ forKey partner key with signedNames := names } : Credentials).begun now) := by
  simp [sign, signature?, begun, forKey, empty, KeyRing.mac?, hsecret]

/-- **A check succeeds exactly if the signature is that of the message**, under the key, the
scheme and the time that the credentials give. -/
theorem check_eq_ok_iff {c : Credentials} {ring : KeyRing} {m : Canonical.Message} :
    c.check ring m = .ok () ↔
      c.scheme = some supportedScheme ∧ ∃ time partner key secret,
        c.timestamp = some time ∧ c.partner = some partner ∧ c.key = some key ∧
          ring.find? ⟨partner, key⟩ = some secret ∧
          c.signature = some (signatureOf secret m time) := by
  -- A signature that is not given is compared as the empty text, which no signature is.
  have hgiven : ∀ s : Text, s.length = 64 → (s = c.signature.getD [] ↔ c.signature = some s) := by
    intro s hs
    cases c.signature with
    | none =>
      refine ⟨fun h => ?_, fun h => absurd h (by simp)⟩
      rw [show s = [] from h] at hs
      exact absurd hs (by decide)
    | some s' => simp [eq_comm]
  rw [check]
  cases hsign : c.signature? ring m with
  | error f =>
    refine ⟨fun h => absurd h (by simp), ?_⟩
    rintro ⟨hscheme, time, partner, key, secret, ht, hp, hk, hs, -⟩
    have hok : c.signature? ring m = .ok _ :=
      signature?_eq_ok_iff.mpr ⟨hscheme, time, partner, key, secret, ht, hp, hk, hs, rfl⟩
    rw [hsign] at hok
    exact absurd hok (by simp)
  | ok s =>
    obtain ⟨hscheme, time, partner, key, secret, ht, hp, hk, hs, rfl⟩ :=
      signature?_eq_ok_iff.mp hsign
    have hlen := length_signatureOf secret m time
    simp [hscheme, ht, hp, hk, hs, hgiven _ hlen]

/-- Complete credentials with the signature of a message pass the check of that message. -/
theorem check_complete {ring : KeyRing} {partner key : Text} {secret : Bytes}
    (hsecret : ring.find? ⟨partner, key⟩ = some secret) (names : List Text) (time : Int64)
    (m : Canonical.Message) :
    (complete partner key names time (signatureOf secret m time)).check ring m = .ok () :=
  check_eq_ok_iff.mpr ⟨rfl, time, partner, key, secret, rfl, rfl, rfl, hsecret, rfl⟩

/-! ### Checks that fail -/

section Fails

variable {c : Credentials} {ring : KeyRing} {m : Canonical.Message}

/-- A scheme that is not supported. -/
theorem check_of_scheme_ne (h : c.scheme ≠ some supportedScheme) :
    c.check ring m = .error (.unknownScheme c.scheme) := by
  rw [check, signature?, if_pos h]

/-- A key that is not known. -/
theorem check_of_find?_eq_none {partner key : Text} {time : Int64}
    (hscheme : c.scheme = some supportedScheme) (ht : c.timestamp = some time)
    (hp : c.partner = some partner) (hk : c.key = some key)
    (hnone : ring.find? ⟨partner, key⟩ = none) :
    c.check ring m = .error (.keyUnknown ⟨partner, key⟩) := by
  simp [check, signature?, hscheme, ht, hp, hk, KeyRing.mac?, hnone]

/-- A signature that is not the right one. -/
theorem check_of_signature_ne {partner key : Text} {time : Int64} {secret : Bytes} {s : Text}
    (hscheme : c.scheme = some supportedScheme) (ht : c.timestamp = some time)
    (hp : c.partner = some partner) (hk : c.key = some key)
    (hsecret : ring.find? ⟨partner, key⟩ = some secret) (hs : c.signature = some s)
    (hne : s ≠ signatureOf secret m time) : c.check ring m = .error .badSignature := by
  have hsign : c.signature? ring m = .ok (signatureOf secret m time) :=
    signature?_eq_ok_iff.mpr ⟨hscheme, time, partner, key, secret, ht, hp, hk, hsecret, rfl⟩
  rw [check, hsign]
  simp [hs, hne.symm]

end Fails

/-- **A signature that holds for one message** holds for another only if they are one message, as
far as the keyed hash tells the two signed texts apart. -/
theorem check_eq_ite {c : Credentials} {ring : KeyRing} {m m' : Canonical.Message}
    {partner key : Text} {secret : Bytes} (hm : m.WellFormed) (hm' : m'.WellFormed)
    (hcheck : c.check ring m = .ok ()) (hpartner : c.partner = some partner)
    (hkey : c.key = some key) (hsecret : ring.find? ⟨partner, key⟩ = some secret)
    (hmac : Hmac.mac secret (Utf8.encode (m.signedText (c.timestamp.getD 0))) =
        Hmac.mac secret (Utf8.encode (m'.signedText (c.timestamp.getD 0))) →
      m.signedText (c.timestamp.getD 0) = m'.signedText (c.timestamp.getD 0)) :
    c.check ring m' = if m = m' then .ok () else .error .badSignature := by
  obtain ⟨hscheme, time, partner', key', secret', htime, hp, hk, hs, hsignature⟩ :=
    check_eq_ok_iff.mp hcheck
  obtain rfl := Option.some.inj (hp.symm.trans hpartner)
  obtain rfl := Option.some.inj (hk.symm.trans hkey)
  obtain rfl := Option.some.inj (hs.symm.trans hsecret)
  rw [htime] at hmac
  split
  next h => exact h ▸ hcheck
  next hne =>
    refine check_of_signature_ne hscheme htime hp hk hs hsignature fun h => hne ?_
    exact (eq_of_signatureOf_eq hm hm' hmac h).1

end Credentials

namespace Caller

open Credentials

/-- The names that a caller's credentials cover: those of its fields that the request has. -/
def coveredNames (c : Caller) (head : Head) : List Text :=
  Canonical.occurring head.fields c.names

/-- The names that a caller covers are tokens. -/
theorem isToken_of_mem_coveredNames {c : Caller} {head : Head} {n : Text}
    (h : n ∈ c.coveredNames head) : IsToken n :=
  Fields.isToken_of_has (Canonical.mem_occurring_iff.mp h).2

/-- **What a caller signs**: it needs its key and a text that fits into a field. -/
theorem sign_eq_ok_iff {c : Caller} {now : Int64} {head : Head} {body : Bytes} {h : Credentials}
    {fields : Fields} :
    c.sign now head body = (.ok h, fields) ↔
      ∃ secret v, c.ring.find? ⟨c.partner, c.key⟩ = some secret ∧
        h = complete c.partner c.key (c.coveredNames head) now
          (signatureOf secret (.covering (c.coveredNames head) head body) now) ∧
        FieldValue.ofText? h.text = some v ∧
        fields = head.fields.set Carrier.authorization.fieldName v := by
  rw [coveredNames, Canonical.Message.covering_occurring]
  simp only [sign, Canonical.Request.outgoing_eq]
  cases hsecret : c.ring.find? ⟨c.partner, c.key⟩ with
  | none => simp [sign_forKey_of_unknown hsecret]
  | some secret =>
    rw [sign_forKey hsecret]
    simp only [Canonical.Message.covering, Option.some.injEq]
    constructor
    · intro h
      split at h
      · exact absurd h (by simp)
      next v hv =>
      obtain ⟨hc, hfields⟩ := Prod.mk.inj h
      obtain rfl := Except.ok.inj hc
      exact ⟨secret, v, rfl, rfl, hv, hfields.symm⟩
    · rintro ⟨secret', v, rfl, rfl, hv, rfl⟩
      rw [hv]

end Caller

end Countersign
