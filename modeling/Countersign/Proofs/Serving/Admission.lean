import Countersign.Proofs.Signature
import Countersign.Proofs.Steps
import Countersign.Serving.Admission

/-!
# What admission decides

Admission asks a record of parts, a window, and the check of a signature, and that check
asks once more for parts that admission has seen. What they amount to is five **checks**
(`Countersign.Serving.Check`), made in this order:

| check | what it asks | otherwise |
| --- | --- | --- |
| `complete` | no part is missing | the names of all parts that are |
| `timely` | the time is in the window, as integers go | `Signature expired` |
| `scheme` | the scheme is the supported one | the scheme |
| `key` | the key is known | partner and key are not recognized |
| `signature` | the signature is that of the request | `Invalid signature` |

Credentials are admitted exactly if they pass all of them, and otherwise the fault is that
of the first one that they do not pass (`Countersign.Serving.admission_decides`). So the
two faults that only a record of parts with holes in it could bring about, after the first
check, never arise.
-/

namespace Countersign

/-- The names of the parts that credentials lack and need. -/
def Credentials.lacking (c : Credentials) : List Text :=
  (if c.scheme = none then ["scheme".toList] else []) ++
    (if c.partner = none then ["partner-id".toList] else []) ++
    (if c.key = none then ["key-id".toList] else []) ++
    (if c.timestamp = none then ["timestamp".toList] else []) ++
    if c.signature = none then ["signature".toList] else []

theorem Credentials.map_name_missing (c : Credentials) : c.missing.map Part.name = c.lacking := by
  obtain ⟨scheme, partner, key, names, time, signature, canonicalize⟩ := c
  cases scheme <;> cases partner <;> cases key <;> cases time <;> cases signature <;> rfl

namespace Serving

/-! ### The distance of two times -/

/-- The word of a time is the time itself, or lies one round beyond it. -/
theorem toNat_toUInt64_cases (t : Int64) :
    (t.toUInt64.toNat : Int) = t.toInt ∨ (t.toUInt64.toNat : Int) = t.toInt + UInt64.size := by
  have h : t.toInt = if 2 * t.toUInt64.toNat < UInt64.size then (t.toUInt64.toNat : Int)
      else t.toUInt64.toNat - UInt64.size := BitVec.toInt_eq_toNat_cond t.toBitVec
  split at h
  · exact Or.inl h.symm
  · exact Or.inr (by omega)

/-- The lesser of two times taken from the greater one leaves what it leaves in the integers. -/
theorem toNat_sub_toUInt64 {a b : Int64} (h : a.toInt ≤ b.toInt) :
    ((b.toUInt64 - a.toUInt64).toNat : Int) = b.toInt - a.toInt := by
  have ha := toNat_toUInt64_cases a
  have hb := toNat_toUInt64_cases b
  have hlo := a.le_toInt
  have hhi := b.toInt_lt
  have haw := a.toUInt64.toNat_lt
  have hbw := b.toUInt64.toNat_lt
  rw [UInt64.size] at ha hb
  rw [UInt64.toNat_sub]
  omega

/-- **The distance of two times does not wrap around**, however far they are apart. -/
theorem toNat_distanceWord (a b : Int64) : (distanceWord a b).toNat = distance a b := by
  rw [distanceWord, distance]
  by_cases h : a < b
  · have hlt := Int64.lt_iff_toInt_lt.mp h
    have hsub := toNat_sub_toUInt64 (Int.le_of_lt hlt)
    rw [if_pos h]
    omega
  · have hle : b.toInt ≤ a.toInt := Int.not_lt.mp (mt Int64.lt_iff_toInt_lt.mpr h)
    have hsub := toNat_sub_toUInt64 hle
    rw [if_neg h]
    omega

theorem lt_distanceWord_iff {window : UInt64} {a b : Int64} :
    window < distanceWord a b ↔ window.toNat < distance a b := by
  rw [UInt64.lt_iff_toNat_lt, toNat_distanceWord]

/-! ### Checks -/

/-- What is checked of the credentials of a request. -/
inductive Check where
  | complete
  | timely
  | scheme
  | key
  | signature

namespace Check

/-- The place of a check in the order in which they are made. -/
def place : Check → Nat
  | complete => 0
  | timely => 1
  | scheme => 2
  | key => 3
  | signature => 4

/-- Whether credentials pass a check. -/
def Passes (ring : KeyRing) (window : UInt64) (now : Int64) (c : Credentials)
    (r : Canonical.Request) : Check → Prop
  | complete => c.lacking = []
  | timely => ∃ time, c.timestamp = some time ∧ distance now time ≤ window.toNat
  | scheme => c.scheme = some supportedScheme
  | key => ∃ partner key secret, c.partner = some partner ∧ c.key = some key ∧
      ring.find? ⟨partner, key⟩ = some secret
  | signature => ∃ partner key secret time, c.partner = some partner ∧ c.key = some key ∧
      ring.find? ⟨partner, key⟩ = some secret ∧ c.timestamp = some time ∧
      c.signature = some (signatureOf secret (.request r) time)

/-- Credentials pass every check that is made before this one, and not this one. -/
def IsFirstFailed (ring : KeyRing) (window : UInt64) (now : Int64) (c : Credentials)
    (r : Canonical.Request) (q : Check) : Prop :=
  ¬q.Passes ring window now c r ∧ ∀ e : Check, e.place < q.place → e.Passes ring window now c r

/-- The fault of credentials that do not pass a check. -/
def fault (c : Credentials) : Check → Fault
  | complete => .incomplete c.missing
  | timely => .expired
  | scheme => .unknownScheme c.scheme
  | key => .keyUnknown ⟨c.partner.getD [], c.key.getD []⟩
  | signature => .badSignature

/-- The kind of fault that a check leads to. -/
def kind : Check → Fault.Kind
  | timely | signature => .authorizationFailed
  | _ => .invalidHeader

/-- What is said of credentials that do not pass a check. -/
def wording (c : Credentials) : Check → Text
  | complete => "Invalid Authorization header: ".toList ++
      Text.join "; ".toList (c.lacking.map (· ++ ": may not be null".toList))
  | timely => "Signature expired".toList
  | scheme => "Unknown authorization scheme, ".toList ++ c.scheme.getD "null".toList
  | key => "Unrecognized partner-id or key-id".toList
  | signature => "Invalid signature".toList

theorem kind_fault (c : Credentials) (q : Check) : (q.fault c).kind = q.kind := by
  cases q <;> rfl

theorem detail_fault (c : Credentials) (q : Check) : (q.fault c).detail = q.wording c := by
  cases q with
  | complete =>
    have hparts : (c.missing.map fun p => p.name ++ ": may not be null".toList) =
        c.lacking.map (· ++ ": may not be null".toList) := by
      rw [← Credentials.map_name_missing, List.map_map]
      rfl
    exact congrArg (fun parts => "Invalid Authorization header: ".toList ++
      Text.join "; ".toList parts) hparts
  | _ => rfl

end Check

section

variable {ring : KeyRing} {window : UInt64} {now : Int64} {c : Credentials} {r : Canonical.Request}

theorem Check.passes_complete_iff :
    complete.Passes ring window now c r ↔ c.missing = [] := by
  rw [Passes, ← Credentials.map_name_missing, List.map_eq_nil_iff]

/-! ### One check after the other -/

/-- Incomplete credentials. -/
theorem admission_of_missing (h : c.missing ≠ []) :
    admission ring window now c r = .error (.incomplete c.missing) := if_pos h

/-- Complete credentials have a partner and a time. What is left to ask is whether the time is in
the window, and what the check of the signature says. -/
theorem admission_of_complete (h : c.missing = []) :
    ∃ partner time, c.partner = some partner ∧ c.timestamp = some time ∧
      admission ring window now c r =
        if window.toNat < distance now time then .error .expired
        else (c.check ring (.request r)).map fun _ => ⟨c, partner⟩ := by
  obtain ⟨-, hpartner, -, htime, -⟩ := Credentials.missing_eq_nil_iff.mp h
  obtain ⟨partner, hp⟩ := Option.isSome_iff_exists.mp hpartner
  obtain ⟨time, ht⟩ := Option.isSome_iff_exists.mp htime
  refine ⟨partner, time, hp, ht, ?_⟩
  rw [admission, if_neg (not_not_intro h)]
  simp only [hp, ht, lt_distanceWord_iff]
  cases c.check ring (.request r) <;> rfl

/-- Complete credentials in time are left to the check of the signature. -/
theorem admission_of_timely (h : c.missing = [])
    (htimely : Check.timely.Passes ring window now c r) :
    ∃ partner, c.partner = some partner ∧
      admission ring window now c r =
        (c.check ring (.request r)).map fun _ => ⟨c, partner⟩ := by
  obtain ⟨partner, time, hp, ht, hadmission⟩ := admission_of_complete h
  obtain ⟨time', ht', hwindow⟩ := htimely
  obtain rfl := Option.some.inj (ht.symm.trans ht')
  rw [if_neg (Nat.not_lt.mpr hwindow)] at hadmission
  exact ⟨partner, hp, hadmission⟩

/-- **Admission**: the credentials are complete, their time is in the window, their key is known,
and their signature is that of the request. -/
theorem admission_eq_ok_iff {a : Admitted} :
    admission ring window now c r = .ok a ↔
      ∃ partner key time secret, a = ⟨c, partner⟩ ∧ c.scheme = some supportedScheme ∧
        c.partner = some partner ∧ c.key = some key ∧ c.timestamp = some time ∧
        distance now time ≤ window.toNat ∧ ring.find? ⟨partner, key⟩ = some secret ∧
        c.signature = some (signatureOf secret (.request r) time) := by
  constructor
  · intro h
    by_cases hmissing : c.missing = []
    · obtain ⟨partner, time, hpartner, htime, hadmission⟩ := admission_of_complete hmissing
      rw [hadmission] at h
      split at h
      · exact absurd h (by simp)
      next hwindow =>
      cases hcheck : c.check ring (.request r) with
      | error f =>
        rw [hcheck] at h
        exact absurd h (by simp [Except.map])
      | ok u =>
        rw [hcheck] at h
        obtain ⟨hscheme, time', partner', key, secret, ht, hp, hk, hs, hsignature⟩ :=
          Credentials.check_eq_ok_iff.mp hcheck
        -- The check found the partner and the time that admission had found before.
        obtain rfl := Option.some.inj (hp.symm.trans hpartner)
        obtain rfl := Option.some.inj (ht.symm.trans htime)
        exact ⟨partner', key, time', secret, (Except.ok.inj h).symm, hscheme, hp, hk, ht,
          Nat.le_of_not_lt hwindow, hs, hsignature⟩
    · rw [admission_of_missing hmissing] at h
      exact absurd h (by simp)
  · rintro ⟨partner, key, time, secret, rfl, hscheme, hp, hk, ht, hwindow, hs, hsignature⟩
    have hcomplete : c.missing = [] := by
      rw [Credentials.missing_eq_nil_iff, hscheme, hp, hk, ht, hsignature]
      exact ⟨rfl, rfl, rfl, rfl, rfl⟩
    have hcheck : c.check ring (.request r) = .ok () :=
      Credentials.check_eq_ok_iff.mpr
        ⟨hscheme, time, partner, key, secret, ht, hp, hk, hs, hsignature⟩
    obtain ⟨partner', hp', hadmission⟩ := admission_of_timely hcomplete ⟨time, ht, hwindow⟩
    obtain rfl := Option.some.inj (hp.symm.trans hp')
    rw [hadmission, hcheck]
    rfl

/-! ### All checks together -/

/-- **Credentials that pass every check** are admitted. -/
theorem admission_of_passes (h : ∀ q : Check, q.Passes ring window now c r) :
    ∃ a, admission ring window now c r = .ok a := by
  obtain ⟨partner, key, secret, time, hp, hk, hs, ht, hsignature⟩ := h .signature
  obtain ⟨time', ht', hwindow⟩ := h .timely
  obtain rfl := Option.some.inj (ht.symm.trans ht')
  exact ⟨⟨c, partner⟩, admission_eq_ok_iff.mpr
    ⟨partner, key, time, secret, rfl, h .scheme, hp, hk, ht, hwindow, hs, hsignature⟩⟩

/-- **Credentials that do not pass every check** have the fault of the first that they do not
pass. -/
theorem admission_of_isFirstFailed {q : Check} (h : q.IsFirstFailed ring window now c r) :
    admission ring window now c r = .error (q.fault c) := by
  obtain ⟨hq, hbefore⟩ := h
  cases q with
  | complete => exact admission_of_missing (mt Check.passes_complete_iff.mpr hq)
  | timely =>
    have hcomplete := Check.passes_complete_iff.mp (hbefore .complete (by decide))
    obtain ⟨partner, time, -, ht, hadmission⟩ := admission_of_complete hcomplete
    rw [hadmission, if_pos (Nat.lt_of_not_le fun hle => hq ⟨time, ht, hle⟩)]
    rfl
  | scheme =>
    have hcomplete := Check.passes_complete_iff.mp (hbefore .complete (by decide))
    obtain ⟨partner, -, hadmission⟩ := admission_of_timely hcomplete (hbefore .timely (by decide))
    rw [hadmission, Credentials.check_of_scheme_ne hq]
    rfl
  | key =>
    have hcomplete := Check.passes_complete_iff.mp (hbefore .complete (by decide))
    obtain ⟨partner, hp, hadmission⟩ := admission_of_timely hcomplete (hbefore .timely (by decide))
    obtain ⟨-, -, hkey, -, -⟩ := Credentials.missing_eq_nil_iff.mp hcomplete
    obtain ⟨key, hk⟩ := Option.isSome_iff_exists.mp hkey
    obtain ⟨time, ht, -⟩ := hbefore .timely (by decide)
    have hnone : ring.find? ⟨partner, key⟩ = none :=
      Option.eq_none_iff_forall_ne_some.mpr fun secret hs => hq ⟨partner, key, secret, hp, hk, hs⟩
    rw [hadmission, Credentials.check_of_find?_eq_none (hbefore .scheme (by decide)) ht hp hk hnone,
      Check.fault, hp, hk]
    rfl
  | signature =>
    have hcomplete := Check.passes_complete_iff.mp (hbefore .complete (by decide))
    obtain ⟨_, -, hadmission⟩ := admission_of_timely hcomplete (hbefore .timely (by decide))
    obtain ⟨-, -, -, -, hsigned⟩ := Credentials.missing_eq_nil_iff.mp hcomplete
    obtain ⟨s, hs⟩ := Option.isSome_iff_exists.mp hsigned
    obtain ⟨time, ht, -⟩ := hbefore .timely (by decide)
    obtain ⟨partner, key, secret, hp, hk, hsecret⟩ := hbefore .key (by decide)
    have hne : s ≠ signatureOf secret (.request r) time := fun heq =>
      hq ⟨partner, key, secret, time, hp, hk, hsecret, ht, heq ▸ hs⟩
    rw [hadmission, Credentials.check_of_signature_ne (hbefore .scheme (by decide)) ht hp hk hsecret
      hs hne]
    rfl

theorem admission_eq_error_iff {f : Fault} :
    admission ring window now c r = .error f ↔
      ∃ q : Check, q.IsFirstFailed ring window now c r ∧ f = q.fault c := by
  constructor
  · intro h
    have hnot : ¬∀ q : Check, q.Passes ring window now c r := fun hall => by
      obtain ⟨a, ha⟩ := admission_of_passes hall
      exact absurd (h.symm.trans ha) (by simp)
    obtain ⟨q, hq⟩ := exists_first Check.place hnot
    exact ⟨q, hq, Except.error.inj (h.symm.trans (admission_of_isFirstFailed hq))⟩
  · rintro ⟨q, hq, rfl⟩
    exact admission_of_isFirstFailed hq

theorem exists_admission_eq_ok_iff :
    (∃ a, admission ring window now c r = .ok a) ↔ ∀ q : Check, q.Passes ring window now c r := by
  refine ⟨fun ⟨a, ha⟩ => ?_, admission_of_passes⟩
  by_contra hnot
  obtain ⟨q, hq⟩ := exists_first Check.place hnot
  exact absurd (ha.symm.trans (admission_of_isFirstFailed hq)) (by simp)

end

/-- What is said of credentials that do not pass is never what would be said if partner or time were
found to be missing after the first check. -/
theorem Check.wording_ne (c : Credentials) (q : Check) :
    q.wording c ≠ "Invalid Authorization header".toList ∧
      q.wording c ≠ "timestamp missing".toList := by
  cases q with
  | complete =>
    have hlonger (names : Text) : "Invalid Authorization header: ".toList ++ names ≠
        "Invalid Authorization header".toList := fun h => by
      have hlength := congrArg List.length h
      simp at hlength
    have hother (names : Text) : "Invalid Authorization header: ".toList ++ names ≠
        "timestamp missing".toList := by simp
    exact ⟨hlonger _, hother _⟩
  | timely =>
    show "Signature expired".toList ≠ _ ∧ "Signature expired".toList ≠ _
    decide
  | scheme =>
    have hother (scheme : Text) : "Unknown authorization scheme, ".toList ++ scheme ≠
          "Invalid Authorization header".toList ∧
        "Unknown authorization scheme, ".toList ++ scheme ≠ "timestamp missing".toList := by simp
    exact hother _
  | key =>
    show "Unrecognized partner-id or key-id".toList ≠ _ ∧
      "Unrecognized partner-id or key-id".toList ≠ _
    decide
  | signature =>
    show "Invalid signature".toList ≠ _ ∧ "Invalid signature".toList ≠ _
    decide

theorem Admitted.mustBe_eq_ok_iff {a : Admitted} {partner : Text} :
    a.mustBe partner = .ok () ↔ a.partner = partner := by
  rw [mustBe]
  split
  next h => exact ⟨fun _ => h, fun _ => rfl⟩
  next h => exact ⟨fun hok => absurd hok (by simp), fun heq => absurd heq h⟩

/-- **Admission decides what its checks say**, for every record of credentials, every canonical
request, every clock, window and key ring. Credentials are admitted exactly if they pass all
checks. Otherwise the fault is that of the first check they do not pass, with its kind and its
wording, which is never that of the two faults that the first check rules out. Whoever is admitted
keeps the credentials as they were, and can be held to the name of the partner in them and to no
other. -/
theorem admission_decides (ring : KeyRing) (window : UInt64) (now : Int64) (c : Credentials)
    (r : Canonical.Request) :
    ((∃ a, admission ring window now c r = .ok a) ↔ ∀ q : Check, q.Passes ring window now c r) ∧
      (∀ f, admission ring window now c r = .error f ↔
        ∃ q : Check, q.IsFirstFailed ring window now c r ∧ f = q.fault c) ∧
      (∀ q : Check, (q.fault c).kind = q.kind ∧ (q.fault c).detail = q.wording c) ∧
      (∀ f, admission ring window now c r = .error f →
        f.detail ≠ "Invalid Authorization header".toList ∧
          f.detail ≠ "timestamp missing".toList) ∧
      ∀ a, admission ring window now c r = .ok a →
        a.credentials = c ∧ ∀ partner, a.mustBe partner = .ok () ↔ c.partner = some partner := by
  refine ⟨exists_admission_eq_ok_iff, fun f => admission_eq_error_iff,
    fun q => ⟨q.kind_fault c, q.detail_fault c⟩, fun f hf => ?_, fun a ha => ?_⟩
  · obtain ⟨q, -, rfl⟩ := admission_eq_error_iff.mp hf
    rw [q.detail_fault c]
    exact q.wording_ne c
  · obtain ⟨partner, key, time, secret, rfl, -, hp, -⟩ := admission_eq_ok_iff.mp ha
    refine ⟨rfl, fun asked => ?_⟩
    rw [Admitted.mustBe_eq_ok_iff, hp, Option.some.injEq]

end Serving

end Countersign
