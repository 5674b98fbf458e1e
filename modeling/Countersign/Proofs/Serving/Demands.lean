import Countersign.Proofs.Credentials.Carried
import Countersign.Proofs.Serving.Verdict

/-!
# What a request has to meet

Checking a request takes many steps, each of which can fail. What they amount to is a list
of seven **demands** (`Countersign.Serving.Demand`), each of them said of the request itself:

| demand | what is met | status if not |
| --- | --- | --- |
| `readable` | one `Authorization` value, visible, reads as credentials | 401 |
| `covered` | every field that they cover occurs | 401 |
| `complete` | they lack no part | 401 |
| `timely` | their time is in the window | 403 |
| `scheme` | their scheme is the supported one | 401 |
| `key` | partner and key are known | 401 |
| `signature` | their signature is that of the request | 403 |

A request that meets all of them is admitted (`Countersign.Serving.Policy.exists_verdict_eq_ok`).
Any other request is refused with the status of the first demand that it does not meet
(`Countersign.Serving.Policy.exists_verdict_eq_error`), and there is such a first demand
(`Countersign.Serving.Demand.exists_isFirstUnmet`).
-/

namespace Countersign

open Http

namespace Serving

/-! ### Demands -/

/-- The credentials that fields present: what the only `Authorization` value reads as. -/
def Presents (fields : Fields) (c : Credentials) : Prop :=
  ∃ v t, Carrier.authorization.values fields = [v] ∧ v.visible? = some t ∧
    Credentials.read t = .ok c

theorem presents_iff {fields : Fields} {c : Credentials} :
    Presents fields c ↔ Credentials.ofRequest fields = .ok c := by
  rw [Credentials.ofRequest_eq_ok_iff]
  constructor
  · rintro ⟨v, t, hvalues, hvisible, hread⟩
    refine ⟨v, hvalues, ?_⟩
    simp only [Carrier.read, hvisible, hread]
  · rintro ⟨v, hvalues, h⟩
    rw [Carrier.read] at h
    split at h
    · exact absurd h (by simp)
    next t hvisible =>
    split at h
    next a hread =>
      obtain rfl := Except.ok.inj h
      exact ⟨v, t, hvalues, hvisible, hread⟩
    · exact absurd h (by simp)

/-- What a request has to meet in order to be admitted. -/
inductive Demand where
  | readable
  | covered
  | complete
  | timely
  | scheme
  | key
  | signature

namespace Demand

/-- The place of a demand in the order in which they are made. -/
def place : Demand → Nat
  | readable => 0
  | covered => 1
  | complete => 2
  | timely => 3
  | scheme => 4
  | key => 5
  | signature => 6

/-- The status that a request is refused with. -/
def status : Demand → Status
  | timely | signature => ⟨403⟩
  | _ => ⟨401⟩

theorem status_cases (d : Demand) : d.status = ⟨401⟩ ∨ d.status = ⟨403⟩ := by
  cases d with
  | timely => exact Or.inr rfl
  | signature => exact Or.inr rfl
  | _ => exact Or.inl rfl

/-- Whether the credentials of a request meet a demand. -/
def MetBy (policy : Policy) (now : Int64) (head : Head) (body : Bytes) (c : Credentials) :
    Demand → Prop
  | readable => True
  | covered => ∀ n ∈ c.signedNames, head.fields.has n = true
  | complete => c.missing = []
  | timely => ∃ time, c.timestamp = some time ∧ distance now time ≤ policy.window.toNat
  | scheme => c.scheme = some supportedScheme
  | key => ∃ partner key secret, c.partner = some partner ∧ c.key = some key ∧
      policy.ring.find? ⟨partner, key⟩ = some secret
  | signature => ∃ partner key secret time, c.partner = some partner ∧ c.key = some key ∧
      policy.ring.find? ⟨partner, key⟩ = some secret ∧ c.timestamp = some time ∧
      c.signature = some (signatureOf secret (.covering c.signedNames head body) time)

/-- Whether a request meets a demand. -/
def Met (policy : Policy) (now : Int64) (head : Head) (body : Bytes) (d : Demand) : Prop :=
  ∃ c, Presents head.fields c ∧ d.MetBy policy now head body c

/-- A request meets every demand that is made before this one, and not this one. -/
def IsFirstUnmet (policy : Policy) (now : Int64) (head : Head) (body : Bytes) (d : Demand) : Prop :=
  ¬d.Met policy now head body ∧ ∀ e : Demand, e.place < d.place → e.Met policy now head body

variable {policy : Policy} {now : Int64} {head : Head} {body : Bytes}

/-- All demands are met by the same credentials. -/
theorem Met.metBy {d : Demand} {c : Credentials} (h : d.Met policy now head body)
    (hc : Presents head.fields c) : d.MetBy policy now head body c := by
  obtain ⟨c', hc', hmet⟩ := h
  obtain rfl := Except.ok.inj ((presents_iff.mp hc').symm.trans (presents_iff.mp hc))
  exact hmet

/-- Among the demands that a request does not meet there is a first one. -/
theorem exists_isFirstUnmet (h : ¬∀ d : Demand, d.Met policy now head body) :
    ∃ d : Demand, d.IsFirstUnmet policy now head body := exists_first place h

end Demand

/-! ### The steps of checking -/

/-- Credentials that cannot be read. -/
theorem status_of_ofRequest_eq_error {fields : Fields} {f : Fault}
    (h : Credentials.ofRequest fields = .error f) : f.status = ⟨401⟩ := by
  rw [Credentials.ofRequest] at h
  split at h
  · rw [← Except.error.inj h]
    rfl
  · rw [Carrier.read] at h
    split at h
    · rw [← Except.error.inj h]
      rfl
    split at h
    · exact absurd h (by simp)
    · rw [← Except.error.inj h]
      rfl
  · rw [← Except.error.inj h]
    rfl

/-- Covered fields that do not occur. -/
theorem status_of_received_eq_error {head : Head} {names : List Text} {digest : Option Text}
    {f : Fault} (h : Canonical.Request.received head names digest = .error f) :
    f.status = ⟨401⟩ := by
  obtain ⟨-, name, -, -, -, -, rfl⟩ := Canonical.Request.received_eq_error_iff.mp h
  rfl

/-! ### The verdict, demand by demand -/

namespace Policy

variable {policy : Policy} {now : Int64} {head : Head} {body : Bytes}

/-- When all that is covered occurs, the verdict is up to admission. -/
theorem verdict_of_covered {c : Credentials} (hc : Presents head.fields c)
    (h : ∀ n ∈ c.signedNames, head.fields.has n = true) :
    policy.verdict now head body = admission policy.ring policy.window now c
      (.of head c.signedNames (Digest.ofBytes body)) := by
  rw [verdict, presents_iff.mp hc]
  show Canonical.Request.received head c.signedNames (Digest.ofBytes body) >>= _ = _
  rw [Canonical.Request.received_eq_ok_iff.mpr ⟨h, rfl⟩]
  rfl

/-- When complete credentials are in time, a check that fails decides. -/
theorem verdict_of_check_eq_error {c : Credentials} {f : Fault} (hc : Presents head.fields c)
    (hbefore : ∀ e : Demand, e.place < Demand.scheme.place → e.MetBy policy now head body c)
    (hcheck : c.check policy.ring (.covering c.signedNames head body) = .error f) :
    policy.verdict now head body = .error f := by
  obtain ⟨partner, time, -, ht, hadmission⟩ := admission_of_complete (hbefore .complete (by decide))
  obtain ⟨time', ht', hwindow⟩ := hbefore .timely (by decide)
  obtain rfl := Option.some.inj (ht.symm.trans ht')
  rw [verdict_of_covered hc (hbefore .covered (by decide)), hadmission,
    if_neg (Nat.not_lt.mpr hwindow)]
  show (c.check policy.ring (.covering c.signedNames head body)).map _ = _
  rw [hcheck]
  rfl

/-- **A request that meets all demands is admitted.** -/
theorem exists_verdict_eq_ok (h : ∀ d : Demand, d.Met policy now head body) :
    ∃ a, policy.verdict now head body = .ok a := by
  obtain ⟨c, hc, -⟩ := h .readable
  have hcovered : ∀ n ∈ c.signedNames, head.fields.has n = true := (h .covered).metBy hc
  obtain ⟨time, ht, hwindow⟩ := (h .timely).metBy hc
  obtain ⟨partner, key, secret, time', hp, hk, hsecret, ht', hsignature⟩ := (h .signature).metBy hc
  obtain rfl := Option.some.inj (ht.symm.trans ht')
  refine ⟨⟨c, partner⟩, (verdict_of_covered hc hcovered).trans ?_⟩
  exact admission_eq_ok_iff.mpr ⟨partner, key, time, secret, rfl, (h .scheme).metBy hc, hp, hk, ht,
    hwindow, hsecret, hsignature⟩

/-- **A request that meets all demands up to one is refused** with the status of that one. -/
theorem exists_verdict_eq_error {d : Demand} (h : d.IsFirstUnmet policy now head body) :
    ∃ f, policy.verdict now head body = .error f ∧ f.status = d.status := by
  obtain ⟨hd, hbefore⟩ := h
  -- Credentials that can be read come first.
  cases hread : Credentials.ofRequest head.fields with
  | error f =>
    have hnone : ∀ e : Demand, ¬e.Met policy now head body := by
      rintro e ⟨c, hc, -⟩
      exact absurd (hread.symm.trans (presents_iff.mp hc)) (by simp)
    cases d with
    | readable => exact ⟨f, by rw [verdict, hread]; rfl, status_of_ofRequest_eq_error hread⟩
    | _ => exact absurd (hbefore .readable (by decide)) (hnone .readable)
  | ok c =>
    have hc : Presents head.fields c := presents_iff.mpr hread
    replace hd : ¬d.MetBy policy now head body c := fun hmet => hd ⟨c, hc, hmet⟩
    replace hbefore : ∀ e : Demand, e.place < d.place → e.MetBy policy now head body c :=
      fun e he => (hbefore e he).metBy hc
    cases d with
    | readable => exact absurd trivial hd
    | covered =>
      rw [verdict, hread]
      cases hreceived : Canonical.Request.received head c.signedNames (Digest.ofBytes body) with
      | error f =>
        refine ⟨f, ?_, status_of_received_eq_error hreceived⟩
        show Canonical.Request.received head c.signedNames (Digest.ofBytes body) >>= _ = _
        rw [hreceived]
        rfl
      | ok r => exact absurd (Canonical.Request.received_eq_ok_iff.mp hreceived).1 hd
    | complete =>
      rw [verdict_of_covered hc (hbefore .covered (by decide)), admission_of_missing hd]
      exact ⟨_, rfl, rfl⟩
    | timely =>
      rw [verdict_of_covered hc (hbefore .covered (by decide))]
      obtain ⟨partner, time, -, ht, hadmission⟩ :=
        admission_of_complete (hbefore .complete (by decide))
      rw [hadmission, if_pos (Nat.lt_of_not_le fun hle => hd ⟨time, ht, hle⟩)]
      exact ⟨_, rfl, rfl⟩
    | scheme =>
      exact ⟨_, verdict_of_check_eq_error hc hbefore (Credentials.check_of_scheme_ne hd), rfl⟩
    | key =>
      have hscheme : c.scheme = some supportedScheme := hbefore .scheme (by decide)
      obtain ⟨-, hpartner, hkey, htime, -⟩ :=
        Credentials.missing_eq_nil_iff.mp (hbefore .complete (by decide))
      obtain ⟨partner, hp⟩ := Option.isSome_iff_exists.mp hpartner
      obtain ⟨key, hk⟩ := Option.isSome_iff_exists.mp hkey
      obtain ⟨time, ht⟩ := Option.isSome_iff_exists.mp htime
      have hnone : policy.ring.find? ⟨partner, key⟩ = none :=
        Option.eq_none_iff_forall_ne_some.mpr fun secret hs => hd ⟨partner, key, secret, hp, hk, hs⟩
      exact ⟨_, verdict_of_check_eq_error hc (fun e he => hbefore e (he.trans (by decide)))
        (Credentials.check_of_find?_eq_none hscheme ht hp hk hnone), rfl⟩
    | signature =>
      have hscheme : c.scheme = some supportedScheme := hbefore .scheme (by decide)
      obtain ⟨partner, key, secret, hp, hk, hsecret⟩ := hbefore .key (by decide)
      obtain ⟨-, -, -, htime, hsignature⟩ :=
        Credentials.missing_eq_nil_iff.mp (hbefore .complete (by decide))
      obtain ⟨time, ht⟩ := Option.isSome_iff_exists.mp htime
      obtain ⟨s, hs⟩ := Option.isSome_iff_exists.mp hsignature
      have hne : s ≠ signatureOf secret (.covering c.signedNames head body) time := by
        rintro rfl
        exact hd ⟨partner, key, secret, time, hp, hk, hsecret, ht, hs⟩
      exact ⟨_, verdict_of_check_eq_error hc (fun e he => hbefore e (he.trans (by decide)))
        (Credentials.check_of_signature_ne hscheme ht hp hk hsecret hs hne), rfl⟩

end Policy

end Serving

end Countersign
