import Countersign.Proofs.Responses.Verification
import Countersign.Proofs.Serving.Sight
import Countersign.Proofs.Serving.Traces

/-!
# Through the gate and back

What the gate does to a request and to its response, on every path, for an application
that leaves the context alone (`Countersign.Serving.serving_is_transparent`).

* **Inwards** nothing changes: the application sees the request, and has its context at hand
  for as long as it runs.
* **In between** the context is closed, whatever the application ended with, and stays closed.
  That nobody asked for it is logged then. The body of the response may still be in the making
  (`Countersign.Serving.Flow`); if it is read, that is where it is read from, and it finds no
  context any more.
* **Outwards** a response without credentials to answer passes as it stands. Any other one
  is read to its end – it can fail there – and goes out with its status, the data it came to and
  its fields (`Countersign.Serving.AnswerWith.Conveys`), signed if the request names a key that
  is known (`Countersign.Serving.Gate.KnowsKeyOf`), and not otherwise. If the body was at hand,
  these are its own data (`Countersign.Serving.Gate.bytes_of_serve_eq_ok`).

There are three paths, and what is said of all of them is said path by path
(`Countersign.Serving.Gate.attended_cases`).
-/

namespace Countersign.Serving

open Http

universe u

variable {β : Type u} [Flowing β]

/-! ### Signing or not -/

/-- The fields have exactly one `Authorization` value, it can be read, and it names a partner and a
key that the gate knows. -/
def Gate.KnowsKeyOf (g : Gate) (fields : Fields) : Prop :=
  ∃ v c partner key secret, Carrier.authorization.values fields = [v] ∧
    Carrier.authorization.read v = .ok c ∧ c.partner = some partner ∧ c.key = some key ∧
    g.ring.find? ⟨partner, key⟩ = some secret

/-- Without a known key there is no signature. -/
theorem find?_of_countersign_eq_ok {ring : KeyRing} {now : Int64} {asked c : Credentials}
    {names : List Text} {fields : Fields} {body : Bytes}
    (h : countersign ring now asked names fields body = .ok c) :
    ∃ partner key secret, asked.partner = some partner ∧ asked.key = some key ∧
      ring.find? ⟨partner, key⟩ = some secret := by
  rw [countersign, Credentials.sign] at h
  split at h
  next signed hsign =>
    split at hsign
    next s hs =>
      obtain ⟨-, time, partner, key, secret, -, hpartner, hkey, hsecret, -⟩ :=
        Credentials.signature?_eq_ok_iff.mp hs
      exact ⟨partner, key, secret, hpartner, hkey, hsecret⟩
    next => exact absurd hsign (by simp)
  next => exact absurd h (by simp)

namespace Gate

variable {g : Gate} {now : Int64} {head : Head} {status : Status} {fields : Fields} {body : Bytes}

/-- With a known key a response is signed. -/
theorem sign_of_knowsKeyOf (h : g.KnowsKeyOf head.fields) (d : Desk) :
    ∃ v, (g.sign now head status fields body d).1 = (⟨.signed, status,
      fields.set Carrier.signedResponse.fieldName v, Flowing.ofBytes body⟩ : AnswerWith β) := by
  obtain ⟨w, asked, partner, key, secret, hvalues, hread, hpartner, hkey, hsecret⟩ := h
  have hasked : Credentials.ofRequest head.fields = .ok asked :=
    Credentials.ofRequest_eq_ok_iff.mpr ⟨w, hvalues, hread⟩
  obtain ⟨c, v, hsigned, -, hcarried, -⟩ :=
    exists_countersign_eq hasked hpartner hkey hsecret now g.names fields body
  refine ⟨v, ?_⟩
  rw [sign, hasked]
  simp only [hsigned, hcarried]

/-- Without one it is not. -/
theorem sign_of_not_knowsKeyOf (h : ¬g.KnowsKeyOf head.fields) (d : Desk) :
    (g.sign now head status fields body d).1 =
      (⟨.unsigned, status, fields, Flowing.ofBytes body⟩ : AnswerWith β) := by
  rw [sign]
  split
  next => rfl
  next asked hasked =>
  split
  next => rfl
  next c hsigned =>
  obtain ⟨v, hvalues, hread⟩ := Credentials.ofRequest_eq_ok_iff.mp hasked
  obtain ⟨partner, key, secret, hpartner, hkey, hsecret⟩ := find?_of_countersign_eq_ok hsigned
  exact absurd ⟨v, asked, partner, key, secret, hvalues, hread, hpartner, hkey, hsecret⟩ h

/-- Signed or not, what goes out is the data. -/
theorem body_sign (d : Desk) :
    (g.sign (β := β) now head status fields body d).1.response.body = Flowing.ofBytes body := by
  by_cases h : g.KnowsKeyOf head.fields
  · obtain ⟨v, hsign⟩ := @sign_of_knowsKeyOf β _ g now head status fields body h d
    rw [hsign]
  · rw [sign_of_not_knowsKeyOf h]

/-- **Signing looks at the credentials that were read**, at nothing else in the request and at
nothing at the desk. All it does there is log a fault, or that the response was not signed. -/
theorem exists_sign_eq (g : Gate) (now : Int64) (asked : Except Fault Credentials)
    (status : Status) (fields : Fields) (body : Bytes) :
    ∃ (answer : AnswerWith β) (events : List Event),
      (∀ v ∈ events, v = .responseNotSigned ∨ ∃ f : Fault, f.event? = some v) ∧
      ∀ (head : Head) (d : Desk), Credentials.ofRequest head.fields = asked →
        g.sign now head status fields body d = (answer, { d with log := d.log ++ events }) := by
  let unsigned : AnswerWith β := ⟨.unsigned, status, fields, Flowing.ofBytes body⟩
  rcases asked with f | asked
  · refine ⟨unsigned, [], fun v hv => absurd hv List.not_mem_nil, fun head d h => ?_⟩
    rw [sign, h, List.append_nil]
  rcases hsigned : countersign g.ring now asked g.names fields body with f | c
  · refine ⟨unsigned, f.event?.toList ++ [.responseNotSigned], fun v hv => ?_, fun head d h => ?_⟩
    · rcases List.mem_append.mp hv with hfault | hlast
      · exact Or.inr ⟨f, Option.mem_toList.mp hfault⟩
      · exact Or.inl (List.mem_singleton.mp hlast)
    · rw [sign, h, ← List.append_assoc]
      simp only [hsigned]
      rfl
  rcases hcarried : FieldValue.ofText? c.text with _ | v
  · refine ⟨unsigned, [.responseNotSigned], fun v hv => Or.inl (List.mem_singleton.mp hv),
      fun head d h => ?_⟩
    rw [sign, h]
    simp only [hsigned, hcarried]
    rfl
  · refine ⟨⟨.signed, status, fields.set Carrier.signedResponse.fieldName v,
      Flowing.ofBytes body⟩, [], fun v hv => absurd hv List.not_mem_nil, fun head d h => ?_⟩
    rw [sign, h, List.append_nil]
    simp only [hsigned, hcarried]

end Gate

/-! ### What goes out -/

/-- **What goes out for a response** that came to some frames when it was read: its status, the
data of these frames in one piece, and all its fields but for the one that a signature is put into;
untouched if the request has no credentials, signed if the gate knows its key, and unsigned
otherwise. -/
structure AnswerWith.Conveys (g : Gate) (head : Head) (response : ResponseWith β) (given : Body)
    (a : AnswerWith β) : Prop where
  status : a.response.status = response.status
  passthrough : a.outcome = .passthrough ↔ Carrier.authorization.values head.fields = []
  signed : a.outcome = .signed ↔ g.KnowsKeyOf head.fields
  unsigned : a.outcome = .unsigned ↔
    Carrier.authorization.values head.fields ≠ [] ∧ ¬g.KnowsKeyOf head.fields
  untouched : a.outcome = .passthrough → a.response = response
  data : a.outcome ≠ .passthrough →
    Flowing.flow a.response.body = .frame (.piece (.data given.bytes)) .done
  fields_of_unsigned : a.outcome = .unsigned → a.response.fields = response.fields
  fields_of_signed : a.outcome = .signed → ∃ v,
    a.response.fields = response.fields.set Carrier.signedResponse.fieldName v ∧
    Carrier.signedResponse.values a.response.fields = [v] ∧
    ∀ name, Text.lower name ≠ Text.lower Carrier.signedResponse.name →
      a.response.fields.values name = response.fields.values name

namespace Gate

variable {g : Gate} {now : Int64} {head : Head} {response : ResponseWith β}

theorem KnowsKeyOf.values_ne_nil (h : g.KnowsKeyOf head.fields) :
    Carrier.authorization.values head.fields ≠ [] := by
  obtain ⟨v, -, -, -, -, hvalues, -⟩ := h
  rw [hvalues]
  exact List.cons_ne_nil v []

/-- A response that passes as it stands. -/
theorem conveys_passthrough (h : Carrier.authorization.values head.fields = []) (given : Body) :
    AnswerWith.Conveys g head response given ⟨.passthrough, response⟩ where
  status := rfl
  passthrough := iff_of_true rfl h
  signed := iff_of_false (by simp) fun hkey => hkey.values_ne_nil h
  unsigned := iff_of_false (by simp) fun hnot => hnot.1 h
  untouched := fun _ => rfl
  data := fun hout => absurd rfl hout
  fields_of_unsigned := fun hout => absurd hout (by simp)
  fields_of_signed := fun hout => absurd hout (by simp)

/-- A response that was read to its end and signed, or left unsigned. -/
theorem conveys_sign (h : Carrier.authorization.values head.fields ≠ []) (given : Body) (d : Desk) :
    AnswerWith.Conveys g head response given
      (g.sign now head response.status response.fields given.bytes d).1 := by
  by_cases hkey : g.KnowsKeyOf head.fields
  · obtain ⟨v, hsign⟩ := @sign_of_knowsKeyOf β _ g now head response.status response.fields
      given.bytes hkey d
    rw [hsign]
    exact {
      status := rfl
      passthrough := iff_of_false (by simp) h
      signed := iff_of_true rfl hkey
      unsigned := iff_of_false (by simp) fun hnot => hnot.2 hkey
      untouched := fun hout => absurd hout (by simp)
      data := fun _ => Flowing.flow_ofBytes _
      fields_of_unsigned := fun hout => absurd hout (by simp)
      fields_of_signed := fun _ => by
        refine ⟨v, rfl, Carrier.values_set _ _ _, fun name hname => ?_⟩
        rw [Fields.values_set, if_neg]
        rw [← Carrier.lower_name]
        exact Ne.symm hname }
  · rw [sign_of_not_knowsKeyOf hkey d]
    exact {
      status := rfl
      passthrough := iff_of_false (by simp) h
      signed := iff_of_false (by simp) hkey
      unsigned := iff_of_true rfl ⟨h, hkey⟩
      untouched := fun hout => absurd hout (by simp)
      data := fun _ => Flowing.flow_ofBytes _
      fields_of_unsigned := fun _ => rfl
      fields_of_signed := fun hout => absurd hout (by simp) }

/-! ### Finishing a response -/

section

variable {e read : Exchange} {given : Body}
  (hread : (Flowing.flow response.body).frames.run g.toPolicy now e.noted = (given, read))

include hread

/-- **Finishing a response fails** with the first failure of the frames that its body comes to, and
with nothing else. -/
theorem finish_eq_error_iff {f : Failure} :
    (g.finish now head response e).1 = .error f ↔ ∃ m, given.FailsWith m ∧ f = .other m := by
  rw [finish_eq, hread]
  simp only [← Body.collect_eq_error_iff]
  cases given.collect with
  | error m =>
    constructor
    · rintro ⟨⟩
      exact ⟨m, rfl, rfl⟩
    · rintro ⟨m', hm, rfl⟩
      rw [Except.error.inj hm]
  | ok x => exact ⟨fun hf => absurd hf (by simp), fun ⟨m, hm, _⟩ => absurd hm (by simp)⟩

/-- If it does not fail, it gives what goes out for the response. -/
theorem conveys_of_finish_eq_ok (h : hasCredentials head = true) {a : AnswerWith β}
    (ha : (g.finish now head response e).1 = .ok a) : a.Conveys g head response given := by
  rw [finish_eq, hread] at ha
  simp only at ha
  cases hcollect : given.collect with
  | error m => exact absurd ha (by simp [hcollect])
  | ok x =>
    obtain ⟨trailers, hdata⟩ := Body.exists_collect_eq (Body.isSound_of_collect_eq_ok hcollect)
    simp only [hdata] at ha
    exact Except.ok.inj ha ▸ conveys_sign (Fields.has_iff.mp h) given _

end

/-- What finishing does at the desk: it notes whether anybody asked for the context, then the body
of the response may leave its traces, and then there is what signing logs. -/
theorem exists_desk_finish_eq (g : Gate) (now : Int64) (head : Head) (response : ResponseWith β)
    (e : Exchange) :
    ∃ events, (∀ v ∈ events, v = .responseNotSigned ∨ ∃ f : Fault, f.event? = some v) ∧
      let read := ((Flowing.flow response.body).frames.run g.toPolicy now e.noted).2
      (g.finish now head response e).2.desk =
        { read.desk with log := read.desk.log ++ events } := by
  rw [finish_eq]
  obtain ⟨given, read⟩ := (Flowing.flow response.body).frames.run g.toPolicy now e.noted
  simp only
  cases given.collect with
  | error m => exact ⟨[], fun v hv => absurd hv List.not_mem_nil, by rw [List.append_nil]⟩
  | ok x =>
    obtain ⟨answer, events, hevents, hsign⟩ := @exists_sign_eq β _ g now
      (Credentials.ofRequest head.fields) response.status response.fields x.1
    exact ⟨events, hevents, congrArg Prod.snd (hsign head read.desk rfl)⟩

/-- Finishing logs that nobody asked for the context, before anything that signing logs. -/
theorem filter_log_finish {P : Event → Bool}
    (hfault : ∀ (f : Fault) (v : Event), f.event? = some v → P v = false)
    (hnot : P .responseNotSigned = false) (response : ResponseWith β) (e : Exchange)
    (hread : ((Flowing.flow response.body).frames.run g.toPolicy now e.noted).2.desk.log.filter P =
      e.noted.desk.log.filter P) :
    (g.finish now head response e).2.desk.log.filter P =
      e.desk.log.filter P ++ if e.desk.accesses 0 = 0 then [.authNotChecked].filter P else [] := by
  obtain ⟨events, hevents, hdesk⟩ := exists_desk_finish_eq g now head response e
  have hnone : events.filter P = [] := by
    refine List.filter_eq_nil_iff.mpr fun v hv => ?_
    rcases hevents v hv with rfl | ⟨f, hf⟩
    · simp [hnot]
    · simp [hfault f v hf]
  rw [hdesk, List.filter_append, hnone, List.append_nil, hread, Exchange.noted,
    List.filter_append, apply_ite (List.filter P), List.filter_nil]

/-! ### Serving, path by path -/

variable {ρ : Type} {app : ApplicationWith β ρ} {r : Request}

/-- The failure of an application is what attending ends with, after the context was closed. -/
theorem attended_of_failure {f : Failure}
    (h : ((app r.toHead).run g.toPolicy now (Exchange.arrival r)).1.1 = .error f) :
    (g.attended now app r).1.1 = .error f ∧ (g.attended now app r).2 = g.closed now app r := by
  simp only [attended_eq, h, and_self]

/-- The response to a request without credentials passes. -/
theorem attended_of_not_hasCredentials
    (hanswer : ((app r.toHead).run g.toPolicy now (Exchange.arrival r)).1.1 = .ok response)
    (h : hasCredentials r.toHead = false) :
    (g.attended now app r).1.1 = .ok ⟨.passthrough, response⟩ ∧
      (g.attended now app r).2 = g.closed now app r := by
  simp only [attended_eq, hanswer, h, Bool.false_eq_true, if_false, and_self]

/-- Any other response is finished after the context was closed. -/
theorem attended_of_hasCredentials
    (hanswer : ((app r.toHead).run g.toPolicy now (Exchange.arrival r)).1.1 = .ok response)
    (h : hasCredentials r.toHead = true) :
    (g.attended now app r).1.1 = (g.finish now r.toHead response (g.closed now app r)).1 ∧
      (g.attended now app r).2 = (g.finish now r.toHead response (g.closed now app r)).2 := by
  simp only [attended_eq, hanswer, h, if_true, and_self]

/-- **The paths of a request**: the application fails; or there are no credentials to answer, and
its response passes; or there are, and it is finished. On every path the context was closed
before. -/
theorem attended_cases (g : Gate) (now : Int64) (app : ApplicationWith β ρ) (r : Request) :
    let result := ((app r.toHead).run g.toPolicy now (Exchange.arrival r)).1.1
    let attended := g.attended now app r
    let closed := g.closed now app r
    (∃ f, result = .error f ∧ attended.1.1 = .error f ∧ attended.2 = closed) ∨
      (∃ response, result = .ok response ∧ hasCredentials r.toHead = false ∧
        attended.1.1 = .ok ⟨.passthrough, response⟩ ∧ attended.2 = closed) ∨
      ∃ response, result = .ok response ∧ hasCredentials r.toHead = true ∧
        attended.1.1 = (g.finish now r.toHead response closed).1 ∧
        attended.2 = (g.finish now r.toHead response closed).2 := by
  intro result attended closed
  cases hresult : result with
  | error f => exact Or.inl ⟨f, rfl, attended_of_failure hresult⟩
  | ok response =>
    cases hc : hasCredentials r.toHead with
    | false =>
      exact Or.inr (Or.inl ⟨response, rfl, rfl, attended_of_not_hasCredentials hresult hc⟩)
    | true => exact Or.inr (Or.inr ⟨response, rfl, rfl, attended_of_hasCredentials hresult hc⟩)

/-- The frames that the body of a response comes to when it is read after the context was closed. -/
def given (g : Gate) (now : Int64) (app : ApplicationWith β ρ) (r : Request)
    (response : ResponseWith β) : Body :=
  ((Flowing.flow response.body).frames.run g.toPolicy now (g.closed now app r).noted).1

/-- A body that is at hand comes to its own frames. -/
theorem given_of_body {app : Application ρ} {response : Response} :
    g.given now app r response = response.body.upToFailure :=
  congrArg (fun p : Program Body => (p.run g.toPolicy now (g.closed now app r).noted).1)
    (Flow.frames_ofBody response.body)

/-- **When serving fails**: with the failure of the application, or with that of the body of its
response if that is read. -/
theorem serve_eq_error_iff {f : Failure} :
    (g.serve now app r).1.1 = .error f ↔
      ((app r.toHead).run g.toPolicy now (Exchange.arrival r)).1.1 = .error f ∨
        hasCredentials r.toHead = true ∧ ∃ response m,
          ((app r.toHead).run g.toPolicy now (Exchange.arrival r)).1.1 = .ok response ∧
            (g.given now app r response).FailsWith m ∧ f = .other m := by
  rw [serve_eq]
  rcases attended_cases g now app r with
    ⟨f', hresult, hserve, -⟩ | ⟨response, hresult, hc, hserve, -⟩ |
    ⟨response, hresult, hc, hserve, -⟩
  · simp only [hresult, hserve]
    constructor
    · rintro ⟨⟩
      exact Or.inl rfl
    · rintro (hf | ⟨-, response, m, hresponse, -⟩)
      · rw [Except.error.inj hf]
      · exact absurd hresponse (by simp)
  · simp [hresult, hserve, hc]
  · simp only [hresult, hserve, hc, finish_eq_error_iff rfl]
    constructor
    · rintro ⟨m, hm, rfl⟩
      exact Or.inr ⟨trivial, response, m, rfl, hm, rfl⟩
    · rintro (hf | ⟨-, response', m, hresponse, hm, rfl⟩)
      · exact absurd hf (by simp)
      · obtain rfl := Except.ok.inj hresponse
        exact ⟨m, hm, rfl⟩

/-- **What goes out is the response** of the application. -/
theorem conveys_of_serve_eq_ok {a : AnswerWith β} (h : (g.serve now app r).1.1 = .ok a) :
    ∃ response, ((app r.toHead).run g.toPolicy now (Exchange.arrival r)).1.1 = .ok response ∧
      a.Conveys g r.toHead response (g.given now app r response) := by
  rw [serve_eq] at h
  rcases attended_cases g now app r with
    ⟨f, -, hserve, -⟩ | ⟨response, hresult, hc, hserve, -⟩ | ⟨response, hresult, hc, hserve, -⟩
  · exact absurd (h.symm.trans hserve) (by simp)
  · obtain rfl := Except.ok.inj (h.symm.trans hserve)
    refine ⟨response, hresult, conveys_passthrough (not_not.mp fun hvalues => ?_) _⟩
    exact absurd (Fields.has_iff.mpr hvalues) (by simp [hc, ← hasCredentials.eq_def])
  · exact ⟨response, hresult, conveys_of_finish_eq_ok rfl hc (hserve.symm.trans h)⟩

/-- **A body that is at hand** goes out with the data that it has. -/
theorem bytes_of_serve_eq_ok {app : Application ρ} {response : Response} {a : Answer}
    (hresponse : ((app r.toHead).run g.toPolicy now (Exchange.arrival r)).1.1 = .ok response)
    (h : (g.serve now app r).1.1 = .ok a) : a.response.body.bytes = response.body.bytes := by
  rw [serve_eq] at h
  rcases attended_cases g now app r with
    ⟨f, -, hserve, -⟩ | ⟨response', hresult, -, hserve, -⟩ | ⟨response', hresult, -, hserve, -⟩
  · exact absurd (h.symm.trans hserve) (by simp)
  · obtain rfl := Except.ok.inj (hresult.symm.trans hresponse)
    rw [Except.ok.inj (h.symm.trans hserve)]
  · obtain rfl := Except.ok.inj (hresult.symm.trans hresponse)
    replace h := hserve.symm.trans h
    rw [finish_of_body] at h
    cases hcollect : response'.body.collect with
    | error m => exact absurd h (by simp [hcollect])
    | ok x =>
      obtain ⟨trailers, hdata⟩ := Body.exists_collect_eq (Body.isSound_of_collect_eq_ok hcollect)
      simp only [hdata] at h
      rw [← Except.ok.inj h, body_sign]
      exact Body.bytes_ofBytes _

/-! ### The context and the log of a modest application -/

section

variable (hmodest : (app r.toHead).Asks Ask.IsModest)

include hmodest

omit [Flowing β] in
/-- The context is still in the slot when a modest application ends, so closing it empties the slot
and does nothing else. -/
theorem closed_eq_of_isModest :
    g.closed now app r =
      { ((app r.toHead).run g.toPolicy now (Exchange.arrival r)).2 with desk.slot := .vacant } := by
  have hslot := Program.slot_run hmodest g.toPolicy now (Exchange.arrival r)
  rw [closed]
  simp only [Desk.close, hslot]
  rfl

omit [Flowing β] in
/-- The context has been given out once for each question that looks it up. -/
theorem accesses_closed :
    (g.closed now app r).desk.accesses 0 =
      (app r.toHead).lookups g.toPolicy now (Exchange.arrival r) := by
  rw [closed_eq_of_isModest hmodest]
  have hcount := Program.accesses_run hmodest g.toPolicy now (e := Exchange.arrival r)
    (c := contextOf r.toHead) rfl
  exact hcount.trans (Nat.zero_add _)

omit [Flowing β] in
theorem filter_log_closed : (g.closed now app r).desk.log.filter Event.isOfContext = [] := by
  rw [closed_eq_of_isModest hmodest]
  exact Program.filter_log_run hmodest g.toPolicy now (Exchange.arrival r)

omit [Flowing β] in
/-- **Where the body of a response is read**: where the application has ended, but with an empty
slot, and after it was noted that nobody asked for the context. -/
theorem noted_closed_eq :
    (g.closed now app r).noted =
      let e := ((app r.toHead).run g.toPolicy now (Exchange.arrival r)).2
      { e with desk := { e.desk with
        slot := .vacant
        log := e.desk.log ++
          if (app r.toHead).lookups g.toPolicy now (Exchange.arrival r) = 0
            then [.authNotChecked] else [] } } := by
  rw [Exchange.noted, accesses_closed hmodest, closed_eq_of_isModest hmodest]

variable (hbody : ∀ response,
  ((app r.toHead).run g.toPolicy now (Exchange.arrival r)).1.1 = .ok response →
    (Flowing.flow response.body).frames.Asks Ask.IsModest)

include hbody

/-- **The context stays closed** to the end of the scope, whatever the request ended with. -/
theorem slot_attended : (g.attended now app r).2.desk.slot = .vacant := by
  have hclosed : (g.closed now app r).desk.slot = .vacant := by
    rw [closed_eq_of_isModest hmodest]
  rcases attended_cases g now app r with
    ⟨f, -, -, hstate⟩ | ⟨response, -, -, -, hstate⟩ | ⟨response, hresult, -, -, hstate⟩
  · rw [hstate, hclosed]
  · rw [hstate, hclosed]
  · obtain ⟨events, -, hdesk⟩ := exists_desk_finish_eq g now r.toHead response (g.closed now app r)
    rw [hstate, hdesk]
    exact (Program.slot_run (hbody response hresult) g.toPolicy now _).trans hclosed

/-- **What is logged about the context**: that nobody asked for it, if there are credentials and a
response. -/
theorem filter_log_attended :
    (g.attended now app r).2.desk.log.filter Event.isOfContext =
      if hasCredentials r.toHead = true ∧
          ((app r.toHead).run g.toPolicy now (Exchange.arrival r)).1.1.isOk = true ∧
          (app r.toHead).lookups g.toPolicy now (Exchange.arrival r) = 0
        then [.authNotChecked] else [] := by
  have hclosed : (g.closed now app r).desk.log.filter Event.isOfContext = [] :=
    filter_log_closed hmodest
  rcases attended_cases g now app r with
    ⟨f, hresult, -, hstate⟩ | ⟨response, hresult, hc, -, hstate⟩ |
    ⟨response, hresult, hc, -, hstate⟩
  · rw [hstate, hclosed, hresult, if_neg (by simp [Except.isOk, Except.toBool])]
  · rw [hstate, hclosed, hc, if_neg (by simp)]
  · rw [hstate, hresult, hc]
    refine (filter_log_finish (fun f v hf => (Fault.of_event?_eq_some hf).1) rfl response _
      (Program.filter_log_run (hbody response hresult) g.toPolicy now _)).trans ?_
    rw [hclosed, accesses_closed hmodest]
    simp only [Except.isOk, Except.toBool, true_and, List.nil_append]
    rfl

end

end Gate

/-- **The gate is transparent** to every application that leaves the context alone, whatever it
asks and in which order, and whatever it ends with. The body of its response may be at hand, or be
made while it is read.

The application sees its request, with the context open until it ends. Then the context is closed,
and it is still closed at the end of the scope, whatever happens in between. The body of a response
to credentials is read where the application has ended, but with the context closed, and does
not get to see it. Serving fails if the application does, and with the same failure; or if there
are credentials to answer and a failure is among the frames that the body comes to there, with the
first one. Otherwise what goes out is the response (`Countersign.Serving.AnswerWith.Conveys`).
About the context nothing is logged but that nobody asked for it, once, if there were credentials,
a response, and no lookup before it. -/
theorem serving_is_transparent {ρ : Type} (g : Gate) (now : Int64) (app : ApplicationWith β ρ)
    (r : Request) (hmodest : (app r.toHead).Asks Ask.IsModest)
    (hbody : ∀ response,
      ((app r.toHead).run g.toPolicy now (Exchange.arrival r)).1.1 = .ok response →
        (Flowing.flow response.body).frames.Asks Ask.IsModest) :
    let credentials := r.fields.has Carrier.authorization.name
    let ran := (app r.toHead).run g.toPolicy now (Exchange.arrival r)
    let lookups := (app r.toHead).lookups g.toPolicy now (Exchange.arrival r)
    let closed : Exchange := { ran.2 with desk := { ran.2.desk with
      slot := .vacant
      log := ran.2.desk.log ++ if lookups = 0 then [.authNotChecked] else [] } }
    let reading (response : ResponseWith β) := (Flowing.flow response.body).frames
    let given (response : ResponseWith β) := ((reading response).run g.toPolicy now closed).1
    let attended := g.attend now app r { Desk.start with slot := .vacant }
    let served := g.serve now app r
    (app r.toHead).Sees g.toPolicy now (some r.toHead) (Exchange.arrival r) r.body ∧
      (∀ response, ran.1.1 = .ok response → credentials = true →
        (reading response).Sees g.toPolicy now none closed closed.intake.body) ∧
      attended.2.desk.slot = .vacant ∧
      (∀ f, ran.1.1 = .error f → attended.2 = { ran.2 with desk.slot := .vacant }) ∧
      served = (attended.1, { attended.2.desk with slot := .outside }) ∧
      (∀ f, served.1.1 = .error f ↔ ran.1.1 = .error f ∨ credentials = true ∧
        ∃ response m, ran.1.1 = .ok response ∧ (given response).FailsWith m ∧ f = .other m) ∧
      (∀ answer, served.1.1 = .ok answer → ∃ response, ran.1.1 = .ok response ∧
        answer.Conveys g r.toHead response (given response)) ∧
      served.2.log.filter Event.isOfContext =
        if credentials = true ∧ ran.1.1.isOk = true ∧ lookups = 0
          then [Event.authNotChecked] else [] := by
  intro credentials ran lookups closed reading given attended served
  have hclosed : (g.closed now app r).noted = closed := Gate.noted_closed_eq hmodest
  have hgiven (response : ResponseWith β) : g.given now app r response = given response := by
    rw [Gate.given, hclosed]
  refine ⟨Program.sees_of_isModest hmodest g.toPolicy now rfl, fun response hresponse _ =>
      Program.sees_of_isModest (hbody response hresponse) g.toPolicy now rfl,
    Gate.slot_attended hmodest hbody, fun f hf => ?_, rfl, fun f => ?_, fun answer hanswer => ?_,
    Gate.filter_log_attended hmodest hbody⟩
  · exact (Gate.attended_of_failure hf).2.trans (Gate.closed_eq_of_isModest hmodest)
  · simp only [← hgiven]
    exact Gate.serve_eq_error_iff
  · obtain ⟨response, hresponse, hconveys⟩ := Gate.conveys_of_serve_eq_ok hanswer
    exact ⟨response, hresponse, hgiven response ▸ hconveys⟩

/-- A request with a known key, to an application that reads one piece, asks for the context in
vain from a task apart, and answers with a body that goes on to read the request. The body asks for
the context before, and would end if it got one; what it would do after its failure it does not get
to do. -/
theorem serving_is_transparent_to_failing_flow :
    let g : Gate := ⟨⟨KeyRing.ofList [(⟨"bob".toList, "1".toList⟩, [])], 300⟩, []⟩
    let r : Request := ⟨⟨⟨"GET".toList, by decide⟩, ⟨[], "/".toList, none, by decide, by decide⟩,
      [(Carrier.authorization.fieldName,
        ⟨Utf8.encode "x partner-id=bob, key-id=1".toList, List.all_eq_true.mp (by decide)⟩)]⟩,
      [.pending, .piece (.data [1]), .piece (.data [2])]⟩
    let body : Flow := .ask .context fun
      | .ok _ => .done
      | .error _ => .ask .piece fun p => .frame (.piece (p.getD (.data [])))
          (.frame (.piece (.failure "gone".toList)) (.ask .close fun _ => .done))
    let app : ApplicationWith Flow (Option Piece) := fun _ => .ask .piece fun p =>
      .ask (.apart .context) fun _ => .done (.ok ⟨⟨200⟩, [], body⟩, p)
    (g.serve 5 app r).1.1 = .error (.other "gone".toList) ∧
      (g.attend 5 app r { Desk.start with slot := .vacant }).2.desk.slot = .vacant ∧
      (g.serve 5 app r).2.log.filter Event.isOfContext = [.authNotChecked] := by
  intro g r body app
  have hmodest : (app r.toHead).Asks Ask.IsModest := ⟨trivial, fun _ => ⟨trivial, fun _ => trivial⟩⟩
  have hbody : body.frames.Asks Ask.IsModest := by
    refine ⟨trivial, fun c => ?_⟩
    rcases c with f | c
    · refine ⟨trivial, fun p => ?_⟩
      rcases p with _ | data | fields | m <;> trivial
    · trivial
  obtain ⟨-, -, hslot, -, -, hfailure, -, hlog⟩ := serving_is_transparent g 5 app r hmodest
    fun response hresponse => Except.ok.inj hresponse ▸ hbody
  refine ⟨(hfailure _).mpr (Or.inr ⟨by decide, ⟨⟨200⟩, [], body⟩, _, rfl, ?_, rfl⟩), hslot,
    hlog.trans (if_pos ⟨by decide, rfl, rfl⟩)⟩
  exact ⟨[.piece (.data [2])], [], rfl, fun m hm => by simp at hm⟩

end Countersign.Serving
