import Countersign.Proofs.Requests.Acceptance
import Countersign.Proofs.Requests.SignedFields

/-!
# Signing a request again

A caller that tries a request a second time may sign it a second time. By then the request has an
`Authorization` field, the one of the first time, and signing looks at the fields before it sets
this one. So it comes down to whether one of the names that the caller declares is that of this
field (`Countersign.Caller.CoversCarrier`).

* If not, nothing that is signed has changed, and setting a field twice is setting it once: whatever
  the request came with, it is the same from the first time on
  (`Countersign.Caller.signAgain_eq`), and is admitted as it was.
* If so, what is signed is the field of the time before, which is then replaced. From the second
  time on the credentials are not those of the first (`Countersign.Caller.ne_of_signAgain_succ`),
  and the field they cover is no longer sent as it was, so that they are refused
  (`Countersign.Caller.verdict_ne_ok_of_coversCarrier`,
  `Countersign.Caller.admitted_and_then_refused`).

That signing succeeds at all is decided by the caller alone, whatever the request
(`Countersign.Caller.exists_sign_eq_ok_iff`), so it succeeds again in both cases.
-/

namespace Countersign.Caller

open Http

/-- Sign a request, and then a number of times what came of it. -/
def signAgain (client : Caller) (now : Int64) (head : Head) (body : Bytes) :
    Nat → Except Fault Credentials × Fields
  | 0 => client.sign now head body
  | k + 1 => client.sign now { head with fields := (client.signAgain now head body k).2 } body

variable {client : Caller} {now : Int64} {head : Head} {body : Bytes}

/-! ### Whether signing succeeds again -/

/-- What is signed in the end is some request, signed once. -/
theorem exists_signAgain_eq_sign (client : Caller) (now : Int64) (head : Head) (body : Bytes)
    (k : Nat) : ∃ head', client.signAgain now head body k = client.sign now head' body := by
  cases k with
  | zero => exact ⟨head, rfl⟩
  | succ k => exact ⟨_, rfl⟩

/-- A caller that has signed one request can sign any other. -/
theorem exists_signAgain_eq_ok (hok : ∃ h fields, client.sign now head body = (.ok h, fields))
    (k : Nat) : ∃ h fields, client.signAgain now head body k = (.ok h, fields) := by
  obtain ⟨head', hsame⟩ := exists_signAgain_eq_sign client now head body k
  rw [hsame]
  exact exists_sign_eq_ok_iff.mpr (exists_sign_eq_ok_iff.mp hok)

/-- What was signed has the field of its signature, in whatever case it is asked for. -/
theorem has_of_sign {h : Credentials} {fields : Fields}
    (hsign : client.sign now head body = (.ok h, fields)) {n : Text}
    (hn : Text.lower n = Text.lower Carrier.authorization.name) : fields.has n = true := by
  obtain ⟨secret, v, -, -, -, rfl⟩ := sign_eq_ok_iff.mp hsign
  rw [Fields.has_iff, Fields.values_eq_of_lower_eq _ hn]
  exact List.ne_nil_of_mem (Carrier.values_set _ _ v ▸ List.mem_singleton_self v)

/-! ### What is signed again -/

/-- One of the names that the caller declares is that of the field its own signature goes into. -/
def CoversCarrier (client : Caller) : Prop :=
  ∃ n ∈ client.names, Text.lower n = Text.lower Carrier.authorization.name

theorem lower_ne_of_not_coversCarrier (hnot : ¬client.CoversCarrier) :
    ∀ n ∈ client.names, Text.lower n ≠ Carrier.authorization.fieldName.text := fun n hn he =>
  hnot ⟨n, hn, he.trans Carrier.authorization.lower_name.symm⟩

section Sign

variable {h : Credentials} {fields : Fields} (hsign : client.sign now head body = (.ok h, fields))

include hsign

/-- **A caller that does not cover its own field** signs the same the second time: the field is all
that was changed. -/
theorem sign_sign (hnot : ¬client.CoversCarrier) :
    client.sign now { head with fields := fields } body = (.ok h, fields) := by
  have hother := lower_ne_of_not_coversCarrier hnot
  obtain ⟨secret, v, hsecret, rfl, hv, rfl⟩ := sign_eq_ok_iff.mp hsign
  have hnames : client.coveredNames
      { head with fields := head.fields.set Carrier.authorization.fieldName v } =
        client.coveredNames head := Canonical.occurring_set hother
  have hmessage : Canonical.Message.covering (client.coveredNames head)
      { head with fields := head.fields.set Carrier.authorization.fieldName v } body =
        .covering (client.coveredNames head) head body :=
    Canonical.Message.covering_set
      (fun n hn => hother n (Canonical.mem_occurring_iff.mp hn).1) head v body
  refine sign_eq_ok_iff.mpr ⟨secret, v, hsecret, ?_, hv, (Fields.set_set _ _ v v).symm⟩
  rw [hnames, hmessage]

/-- **And every time after that.** -/
theorem signAgain_eq (hnot : ¬client.CoversCarrier) (k : Nat) :
    client.signAgain now head body k = (.ok h, fields) := by
  induction k with
  | zero => exact hsign
  | succ k ih =>
    rw [signAgain, ih]
    exact sign_sign hsign hnot

/-- **A caller that covers its own field** covers it from the second time on, and not the first
time, if the field was not there before. -/
theorem ne_of_signAgain_succ (hcovers : client.CoversCarrier)
    (habsent : head.fields.has Carrier.authorization.name = false) {k : Nat} {h' : Credentials}
    {fields' : Fields} (hagain : client.signAgain now head body (k + 1) = (.ok h', fields')) :
    h' ≠ h := by
  obtain ⟨n, hn, hname⟩ := hcovers
  obtain ⟨before, fieldsBefore, hbefore⟩ := exists_signAgain_eq_ok ⟨h, fields, hsign⟩ k
  rw [signAgain, hbefore] at hagain
  obtain ⟨head', hsame⟩ := exists_signAgain_eq_sign client now head body k
  obtain ⟨secret, v, -, rfl, -, -⟩ := sign_eq_ok_iff.mp hsign
  obtain ⟨secret', v', -, rfl, -, -⟩ := sign_eq_ok_iff.mp hagain
  -- The field is there when the request is signed again, and it was not at first.
  have hlater : n ∈ client.coveredNames { head with fields := fieldsBefore } :=
    Canonical.mem_occurring_iff.mpr ⟨hn, has_of_sign (hsame.symm.trans hbefore) hname⟩
  have hfirst : n ∉ client.coveredNames head := fun hmem =>
    Carrier.lower_ne_of_mem_occurring (Or.inl habsent) n hmem
      (hname.trans Carrier.authorization.lower_name)
  intro he
  have hnames : client.coveredNames { head with fields := fieldsBefore } =
      client.coveredNames head := congrArg Credentials.signedNames he
  exact hfirst (hnames ▸ hlater)

/-- **Who covers the field of before** is not admitted with another one in its place: the values
that are checked are not those that were signed, as far as the keyed hash tells the two texts
apart. -/
theorem verdict_ne_ok_of_coversCarrier (hcovers : client.CoversCarrier)
    (hpartner : Credentials.IsPlain client.partner) (hkey : Credentials.IsPlain client.key)
    {h' : Credentials} {fields' : Fields} {later : Int64}
    (hagain : client.sign later { head with fields := fields } body = (.ok h', fields'))
    (hne : h' ≠ h) {policy : Serving.Policy} {secret : Bytes}
    (hclient : client.ring.find? ⟨client.partner, client.key⟩ = some secret)
    (hserver : policy.ring.find? ⟨client.partner, client.key⟩ = some secret)
    (hmac : Hmac.mac secret (Utf8.encode (h'.signedText { head with fields := fields } body)) =
        Hmac.mac secret (Utf8.encode (h'.signedText { head with fields := fields' } body)) →
      h'.signedText { head with fields := fields } body =
        h'.signedText { head with fields := fields' } body)
    (t : Int64) (a : Serving.Admitted) :
    policy.verdict t { head with fields := fields' } body ≠ .ok a := by
  intro hverdict
  -- What is in the field is read as what was signed, both times.
  obtain ⟨v, hv, hread⟩ := Credentials.ofRequest_eq_ok_iff.mp
    ((ofRequest_sign_eq_ok_iff hsign).mpr ⟨hpartner, hkey⟩)
  have hreceived := (ofRequest_sign_eq_ok_iff hagain).mpr ⟨hpartner, hkey⟩
  obtain ⟨v', hv', hread'⟩ := Credentials.ofRequest_eq_ok_iff.mp hreceived
  have hlines := (Serving.covered_eq_of_verdict (congrArg Prod.fst hagain) hclient hserver hreceived
    rfl rfl rfl hverdict hmac).1
  obtain ⟨n, hn, hname⟩ := hcovers
  have hmem : n ∈ h'.signedNames := by
    obtain ⟨-, -, -, rfl, -⟩ := sign_eq_ok_iff.mp hagain
    exact Canonical.mem_occurring_iff.mpr ⟨hn, has_of_sign hsign hname⟩
  have hvalues : (fields.values n).map (fun v => Text.trim v.text) =
      (fields'.values n).map fun v => Text.trim v.text :=
    Canonical.covered_eq_iff.mp hlines n hmem
  have hone : fields.values n = [v] := (fields.values_eq_of_lower_eq hname).trans hv
  have hone' : fields'.values n = [v'] := (fields'.values_eq_of_lower_eq hname).trans hv'
  rw [hone, hone'] at hvalues
  exact hne (Carrier.eq_of_read hread' hread (List.singleton_inj.mp hvalues).symm)

end Sign

/-- **Signing a request again.** A caller that has signed a request can sign what came of it any
number of times. If none of the names it declares is that of the field its signature goes into, then
the credentials are the same every time, and so are the fields, whether the request came with that
field or without; and if the names of partner and key are plain, whoever has the same key admits the
request at any time in the window.

If one of the names is that of the field, and the request came without it, the credentials are never
again those of the first time; and what was signed twice is admitted by nobody who has the same key,
as far as the keyed hash tells what was signed from what is checked. -/
theorem signing_again (client : Caller) (now : Int64) (head : Head) (body : Bytes)
    (h : Credentials) (fields : Fields) (hsign : client.sign now head body = (.ok h, fields)) :
    (∀ k, ∃ h' fields', client.signAgain now head body k = (.ok h', fields')) ∧
      (¬client.CoversCarrier →
        (∀ k, client.signAgain now head body k = (.ok h, fields)) ∧
          (Credentials.IsPlain client.partner → Credentials.IsPlain client.key →
            ∀ (policy : Serving.Policy) (later : Int64),
              policy.ring.find? ⟨client.partner, client.key⟩ =
                client.ring.find? ⟨client.partner, client.key⟩ →
              (later.toInt - now.toInt).natAbs ≤ policy.window.toNat →
              policy.verdict later { head with fields := fields } body =
                .ok ⟨h, client.partner⟩)) ∧
      (client.CoversCarrier → head.fields.has Carrier.authorization.name = false →
        (∀ k h' fields', client.signAgain now head body (k + 1) = (.ok h', fields') → h' ≠ h) ∧
          (Credentials.IsPlain client.partner → Credentials.IsPlain client.key →
            ∀ h' fields', client.signAgain now head body 1 = (.ok h', fields') →
              ∀ (policy : Serving.Policy) (later : Int64) (secret : Bytes),
                client.ring.find? ⟨client.partner, client.key⟩ = some secret →
                policy.ring.find? ⟨client.partner, client.key⟩ = some secret →
                (Hmac.mac secret
                    (Utf8.encode (h'.signedText { head with fields := fields } body)) =
                  Hmac.mac secret
                    (Utf8.encode (h'.signedText { head with fields := fields' } body)) →
                  h'.signedText { head with fields := fields } body =
                    h'.signedText { head with fields := fields' } body) →
                ∀ a, policy.verdict later { head with fields := fields' } body ≠ .ok a)) := by
  refine ⟨exists_signAgain_eq_ok ⟨h, fields, hsign⟩, fun hnot => ⟨signAgain_eq hsign hnot, ?_⟩,
    fun hcovers habsent =>
      ⟨fun k h' fields' => ne_of_signAgain_succ hsign hcovers habsent, ?_⟩⟩
  · intro hpartner hkey policy later hring hwindow
    have hother : ∀ n ∈ client.names, Text.lower n ≠ Text.lower Carrier.authorization.name :=
      fun n hn he => hnot ⟨n, hn, he⟩
    exact verdict_of_sign hpartner hkey hsign (Or.inr hother) hring hwindow
  · intro hpartner hkey h' fields' hagain policy later secret hclient hserver hmac a
    have hne : h' ≠ h := ne_of_signAgain_succ hsign hcovers habsent hagain
    rw [signAgain, signAgain, hsign] at hagain
    exact verdict_ne_ok_of_coversCarrier hsign hcovers hpartner hkey hagain hne hclient hserver hmac
      later a

/-- A request that came with credentials of someone else, and is signed four times in all. -/
theorem signing_again_of_forwarded :
    let ring := KeyRing.ofList [(⟨"bob".toList, "1".toList⟩, [0x6B])]
    let client : Caller := ⟨ring, "bob".toList, "1".toList, ["Content-Type".toList]⟩
    let head : Head := ⟨⟨"GET".toList, by decide⟩,
      ⟨[], "/a".toList, none, by decide, by decide⟩,
      [(Carrier.authorization.fieldName, ⟨[0x78], List.all_eq_true.mp (by decide)⟩),
        (FieldName.contentType, ⟨[0x79], List.all_eq_true.mp (by decide)⟩)]⟩
    ∃ h fields, client.sign 5 head [] = (.ok h, fields) ∧
      client.signAgain 5 head [] 3 = (.ok h, fields) ∧
      (⟨ring, 300⟩ : Serving.Policy).verdict (-295) { head with fields := fields } [] =
        .ok ⟨h, "bob".toList⟩ := by
  intro ring client head
  obtain ⟨h, fields, hsign⟩ : ∃ h fields, client.sign 5 head [] = (.ok h, fields) :=
    exists_sign_eq_ok_iff.mpr ⟨by decide, List.all_eq_true.mp (by decide)⟩
  obtain ⟨-, hsame, -⟩ := signing_again client 5 head [] h fields hsign
  have hnot : ¬client.CoversCarrier := by
    rintro ⟨n, hn, hname⟩
    obtain rfl := List.mem_singleton.mp hn
    exact absurd hname (by decide)
  obtain ⟨hagain, hadmitted⟩ := hsame hnot
  exact ⟨h, fields, hsign, hagain 3, hadmitted (Credentials.isPlain_of_isToken (by decide))
    (Credentials.isPlain_of_isToken (by decide)) _ _ rfl (by decide)⟩

/-- **What is refused the second time**: a caller that covers its own field signs a request, which
is admitted, and signs it again. -/
theorem admitted_and_then_refused :
    let ring := KeyRing.ofList [(⟨"bob".toList, "1".toList⟩, [0x6B])]
    let client : Caller := ⟨ring, "bob".toList, "1".toList, ["Authorization".toList]⟩
    let policy : Serving.Policy := ⟨ring, 300⟩
    let head : Head := ⟨⟨"GET".toList, by decide⟩,
      ⟨[], "/a".toList, none, by decide, by decide⟩, []⟩
    ∃ h fields h' fields', client.sign 5 head [] = (.ok h, fields) ∧
      client.signAgain 5 head [] 1 = (.ok h', fields') ∧ h' ≠ h ∧ fields' ≠ fields ∧
      policy.verdict 5 { head with fields := fields } [] = .ok ⟨h, "bob".toList⟩ ∧
      policy.verdict 5 { head with fields := fields' } [] = .error .badSignature := by
  intro ring client policy head
  obtain ⟨h, fields, hsign⟩ : ∃ h fields, client.sign 5 head [] = (.ok h, fields) :=
    exists_sign_eq_ok_iff.mpr ⟨by decide, List.all_eq_true.mp (by decide)⟩
  obtain ⟨h', fields', hagain⟩ := exists_signAgain_eq_ok ⟨h, fields, hsign⟩ 1
  have hadmitted : policy.verdict 5 { head with fields := fields } [] = .ok ⟨h, "bob".toList⟩ :=
    verdict_of_sign (Credentials.isPlain_of_isToken (by decide))
      (Credentials.isPlain_of_isToken (by decide)) hsign (Or.inl (by decide)) rfl (by decide)
  have hrefused : policy.verdict 5
      { head with fields := (client.signAgain 5 head [] 1).2 } [] = .error .badSignature := by
    decide +kernel
  rw [hagain] at hrefused
  refine ⟨h, fields, h', fields', hsign, hagain, ?_, ?_, hadmitted, hrefused⟩
  · exact ne_of_signAgain_succ hsign ⟨_, List.mem_cons_self, rfl⟩ (by decide) hagain
  · rintro rfl
    rw [hadmitted] at hrefused
    exact absurd hrefused (by simp)

end Countersign.Caller
