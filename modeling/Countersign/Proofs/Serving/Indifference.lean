import Countersign.Proofs.Serving.Blindness
import Countersign.Proofs.Serving.Passage
import Countersign.Serving.Echo

/-!
# Fields that are not covered do not matter

Whoever stands between a client and a server may add fields, drop them, change them, change their
order and the case of their names. As long as the credentials and what they cover stay as they
were, nobody notices (`Countersign.Serving.uncovered_fields_are_ignored`).

How much is the same depends on what is known of the application.

| known of the applications | what is the same |
|---|---|
| they read to the end, then check | the verdict, also if it is a fault |
| nothing | whether there is a signature, or need not be one |
| they end with the same response | the answer, with the signature if there is one |
| they are one, and it is blind | all of it: answer, report, counts and log |

* **The verdict** is up to the credentials, the covered fields and the body
  (`Countersign.Serving.Policy.verdict_eq_of_agreeOnCovered`).
* **The answer** is up to the credentials and the response. The gate reads no other field of the
  request, and it reads nothing at the desk: it only adds to the log there
  (`Countersign.Serving.Gate.exists_finish_eq`).
* **The whole run** of a blind application is followed in `Countersign.Proofs.Serving.Blindness`.
  The echo application is one (`Countersign.Serving.Echo.serve_eq_of_agreeOnCovered`).

An application that is not blind gets the changed fields from its context, and may answer what it
likes.
-/

namespace Countersign.Serving

open Http

/-! ### The verdict -/

/-- **The verdict** on two requests that agree is one. -/
theorem Policy.verdict_eq_of_agreeOnCovered {head : Head} {fields : Fields}
    (h : AgreeOnCovered head.fields fields) (policy : Policy) (now : Int64) (body : Bytes) :
    policy.verdict now { head with fields := fields } body = policy.verdict now head body := by
  rw [verdict, verdict, h.ofRequest_eq]
  cases hread : Credentials.ofRequest head.fields with
  | error f => rfl
  | ok c => rw [ok_bind, ok_bind, h.received_eq hread]

/-! ### What the gate adds -/

namespace Gate

/-- **Finishing a response looks at the credentials that were read**, at nothing else in the
request and, if the body is at hand, at nothing at the desk. All it does there is log something, and
that nobody asked for the context before it. -/
theorem exists_finish_eq (g : Gate) (now : Int64) (asked : Except Fault Credentials)
    (response : Response) :
    ∃ result events, ∀ (head : Head) (e : Exchange), Credentials.ofRequest head.fields = asked →
      g.finish now head response e =
        (result, { e with desk.log := e.noted.desk.log ++ events }) := by
  rcases hcollect : response.body.collect with m | ⟨body, trailers⟩
  · refine ⟨.error (.other m), [], fun head e h => ?_⟩
    simp only [finish_of_body, hcollect, List.append_nil]
    rfl
  · obtain ⟨answer, events, -, hsign⟩ :=
      @exists_sign_eq Body _ g now asked response.status response.fields body
    refine ⟨.ok answer, events, fun head e h => ?_⟩
    simp only [finish_of_body, hcollect, hsign head _ h]
    rfl

variable {g : Gate} {now : Int64} {r r' : Request} {fields : Fields}

/-- **The answer to a request** is made of the result of the application and of the credentials. -/
theorem serve_eq_of_result {ρ ρ' : Type} {app : Application ρ} {app' : Application ρ'}
    (h : AgreeOnCovered r.fields r'.fields)
    (hresult : ((app' r'.toHead).run g.toPolicy now (Exchange.arrival r')).1.1 =
      ((app r.toHead).run g.toPolicy now (Exchange.arrival r)).1.1) :
    (g.serve now app' r').1.1 = (g.serve now app r).1.1 := by
  have hcredentials : hasCredentials r'.toHead = hasCredentials r.toHead := h.hasCredentials_eq
  rw [serve_eq, serve_eq]
  rcases attended_cases g now app r with
    ⟨f, hran, hserve, -⟩ | ⟨response, hran, hc, hserve, -⟩ | ⟨response, hran, hc, hserve, -⟩
  · exact (attended_of_failure (hresult.trans hran)).1.trans hserve.symm
  · exact (attended_of_not_hasCredentials (hresult.trans hran)
      (hcredentials.trans hc)).1.trans hserve.symm
  · obtain ⟨result, events, hfinish⟩ :=
      exists_finish_eq g now (Credentials.ofRequest r.fields) response
    simp only [hserve, (attended_of_hasCredentials (hresult.trans hran)
      (hcredentials.trans hc)).1, hfinish r.toHead _ rfl, hfinish r'.toHead _ h.ofRequest_eq]

/-- **A blind application** that is the same for two requests that agree serves them alike: the
answer, the report, the counts and the log are the same. -/
theorem serve_eq_of_isBlind {ρ : Type} {app : Application ρ} (h : AgreeOnCovered r.fields fields)
    (happ : app { r.toHead with fields := fields } = app r.toHead)
    (hblind : (app r.toHead).Asks Ask.IsBlind) :
    g.serve now app ⟨{ r.toHead with fields := fields }, r.body⟩ = g.serve now app r := by
  obtain ⟨⟨result, report⟩, e, e', hrun, hrun', he⟩ :=
    Program.agrees_run hblind g.toPolicy now (Exchange.agrees_arrival h)
  obtain ⟨slot, -, hclosed⟩ := he.desk.close
  rw [serve_eq, serve_eq, attended_eq, attended_eq, closed, closed]
  simp only [happ, hrun, hrun', hclosed, h.hasCredentials_eq]
  rcases result with f | response
  · rfl
  simp only
  split
  · obtain ⟨result, events, hfinish⟩ :=
      exists_finish_eq g now (Credentials.ofRequest r.fields) response
    rw [hfinish r.toHead _ rfl, hfinish _ _ h.ofRequest_eq]
    rfl
  · rfl

end Gate

/-! ### Two requests that agree -/

/-- **What becomes of a response** is up to the credentials, whatever the response. -/
theorem AnswerWith.Conveys.outcome_eq {g : Gate} {head head' : Head}
    {response response' : Response} {given given' : Body} {a a' : Answer}
    (h : AgreeOnCovered head.fields head'.fields) (ha : a.Conveys g head response given)
    (ha' : a'.Conveys g head' response' given') : a'.outcome = a.outcome := by
  have hkey : g.KnowsKeyOf head'.fields ↔ g.KnowsKeyOf head.fields := by
    rw [Gate.KnowsKeyOf, Gate.KnowsKeyOf, h.authorization]
  cases hout : a.outcome with
  | passthrough =>
    exact ha'.passthrough.mpr (h.authorization.trans (ha.passthrough.mp hout))
  | unsigned =>
    obtain ⟨hvalues, hunknown⟩ := ha.unsigned.mp hout
    exact ha'.unsigned.mpr ⟨h.authorization ▸ hvalues, fun hknown => hunknown (hkey.mp hknown)⟩
  | signed => exact ha'.signed.mpr (hkey.mpr (ha.signed.mp hout))

/-- **Fields that are not covered are ignored.** Let two requests have one method and one target, and
let their fields agree. Then at every clock and window

* a check is told the same, be it who is admitted or why nobody is, for any two applications that
  read their request to the end before, in whatever portions the same bytes come;
* the two responses are both signed, both left unsigned, or both passed as they stand, whatever
  they are;
* if the applications end with the same response or failure, the two answers are the same, with
  the signature if there is one;
* and if the bodies are the same, an application that is blind to the change serves both requests
  alike, with the same report, counts and log, whenever it checks. -/
theorem uncovered_fields_are_ignored (g : Gate) (now : Int64) (r r' : Request)
    (hmethod : r'.method = r.method) (htarget : r'.target = r.target)
    (hfields : AgreeOnCovered r.fields r'.fields) :
    (∀ {α α' : Type} (read : Head → Program α) (read' : Head → Program α')
        (go : Head → α → Except Fault Admitted → Program (Except Failure Response))
        (go' : Head → α' → Except Fault Admitted → Program (Except Failure Response)),
        r'.body.bytes = r.body.bytes → (read r.toHead).ReadsToEnd g.toPolicy now r →
        (read' r'.toHead).ReadsToEnd g.toPolicy now r' →
        (g.serve now (checking read' go') r').1.2 = (g.serve now (checking read go) r).1.2) ∧
      (∀ {ρ ρ' : Type} (app : Application ρ) (app' : Application ρ') (a a' : Answer),
        (g.serve now app r).1.1 = .ok a → (g.serve now app' r').1.1 = .ok a' →
        a'.outcome = a.outcome) ∧
      (∀ {ρ ρ' : Type} (app : Application ρ) (app' : Application ρ'),
        ((app' r'.toHead).run g.toPolicy now (Exchange.arrival r')).1.1 =
          ((app r.toHead).run g.toPolicy now (Exchange.arrival r)).1.1 →
        (g.serve now app' r').1.1 = (g.serve now app r).1.1) ∧
      ∀ {ρ : Type} (app : Application ρ), r'.body = r.body → app r'.toHead = app r.toHead →
        (app r.toHead).Asks Ask.IsBlind → g.serve now app r' = g.serve now app r := by
  obtain ⟨⟨method, target, fields⟩, frames⟩ := r'
  dsimp only at hmethod htarget hfields
  subst hmethod htarget
  refine ⟨?_, ?_, ?_, ?_⟩
  · intro α α' read read' go go' hbytes hread hread'
    dsimp only at hbytes
    rw [Gate.report_serve_checking g now read go r hread,
      Gate.report_serve_checking g now read' go' _ hread', hbytes]
    exact Policy.verdict_eq_of_agreeOnCovered hfields g.toPolicy now _
  · intro ρ ρ' app app' a a' ha ha'
    obtain ⟨response, -, hconveys⟩ := Gate.conveys_of_serve_eq_ok ha
    obtain ⟨response', -, hconveys'⟩ := Gate.conveys_of_serve_eq_ok ha'
    exact hconveys.outcome_eq hfields hconveys'
  · intro ρ ρ' app app' hresult
    exact Gate.serve_eq_of_result hfields hresult
  · rintro ρ app rfl happ hblind
    exact Gate.serve_eq_of_isBlind hfields happ hblind

/-- On its way a signed request gets one more field and a body in portions, another field is changed,
and the covered one is written in a capital and put last. One application reads everything at once;
the other one looks at the fields and reads piece by piece. Both are told who signed the request, and
give one answer. -/
theorem uncovered_fields_are_ignored_of_traced :
    let g : Gate := ⟨⟨KeyRing.ofList [(⟨"bob".toList, "1".toList⟩, [0x6B])], 10⟩,
      ["Content-Type".toList]⟩
    let target : Target := ⟨[], "/a".toList, none, by decide, by decide⟩
    let x : FieldName := ⟨"x".toList, by decide, by decide⟩
    let capital : FieldName := (FieldName.ofText? "X".toList).get (by decide)
    let y : FieldName := ⟨"y".toList, by decide, by decide⟩
    let trace : FieldName := ⟨"x-trace".toList, by decide, by decide⟩
    let a : FieldValue := ⟨[0x61], List.all_eq_true.mp (by decide)⟩
    let b : FieldValue := ⟨[0xFF], List.all_eq_true.mp (by decide)⟩
    let c := Credentials.complete "bob".toList "1".toList ["X".toList] 5
      "a9fdaa36c8d789d18f6bd58fa429ab4342faf160824f610a4addc2a13018145a".toList
    let authorization := (Carrier.authorization.fieldName,
      FieldValue.mk (Utf8.encode c.text) (List.all_eq_true.mp (by decide +kernel)))
    let r : Request := ⟨⟨⟨"PUT".toList, by decide⟩, target, [(x, a), authorization, (y, a)]⟩,
      [.piece (.data [1, 2])]⟩
    let fields : Fields := [(trace, b), authorization, (y, b), (capital, a)]
    let frames : Body := [.piece (.data [1]), .pending, .piece (.data [2])]
    let altered : Request := ⟨{ r.toHead with fields := fields }, frames⟩
    let response : Response := ⟨⟨200⟩, [(FieldName.contentType, a)], .ofBytes [3]⟩
    let atOnce : Head → Program (Except Text Bytes) := fun _ => Ask.rest.once
    let inPieces : Head → Program (Option Piece) := fun _ => do
      let _ ← Ask.context.once
      let _ ← Ask.piece.once
      Ask.piece.once
    let answer {α : Type} : Head → α → Except Fault Admitted → Program (Except Failure Response) :=
      fun _ _ _ => pure (.ok response)
    AgreeOnCovered r.fields fields ∧
      (g.serve 15 (checking atOnce answer) r).1.2 = .ok ⟨c, "bob".toList⟩ ∧
      (g.serve 15 (checking inPieces answer) altered).1.2 = .ok ⟨c, "bob".toList⟩ ∧
      (g.serve 15 (checking inPieces answer) altered).1.1 =
        (g.serve 15 (checking atOnce answer) r).1.1 := by
  intro g target x capital y trace a b c authorization r fields frames altered response atOnce
    inPieces answer
  have hpresents : Credentials.ofRequest r.fields = .ok c := by decide +kernel
  have hagree : AgreeOnCovered r.fields fields := by
    refine ⟨by decide +kernel, fun d hd => ?_⟩
    obtain rfl := Except.ok.inj (hpresents.symm.trans (presents_iff.mp hd))
    decide +kernel
  have hadmitted : (g.serve 15 (checking atOnce answer) r).1.2 = .ok ⟨c, "bob".toList⟩ := by
    decide +kernel
  have hread : (atOnce r.toHead).ReadsToEnd g.toPolicy 15 r :=
    Program.readsToEnd_rest g.toPolicy 15 fun m hm => by simp [r] at hm
  have hread' : (inPieces altered.toHead).ReadsToEnd g.toPolicy 15 altered :=
    ⟨_, inPieces altered.toHead, pure, rfl,
      ⟨trivial, fun _ => ⟨trivial, fun _ => ⟨trivial, fun _ => trivial⟩⟩⟩, rfl, fun _ => trivial⟩
  have hended {α : Type} (read : Head → Program α) (r : Request) :
      ((checking read answer r.toHead).run g.toPolicy 15 (Exchange.arrival r)).1.1 =
        .ok response := by
    simp only [answer, checking, Program.run_bind, Program.run_pure]
  obtain ⟨hverdict, -, hanswer, -⟩ := uncovered_fields_are_ignored g 15 r altered rfl rfl hagree
  exact ⟨hagree, hadmitted, (hverdict atOnce inPieces answer answer rfl hread hread').trans hadmitted,
    hanswer (checking atOnce answer) (checking inPieces answer)
      ((hended inPieces altered).trans (hended atOnce r).symm)⟩

/-! ### The echo application -/

namespace Echo

/-- The echo application does not look at the fields of its request. -/
theorem isBlind_application (id : FieldValue) (head : Head) :
    (application id head).Asks Ask.IsBlind := by
  rw [application]
  split
  · trivial
  refine ⟨trivial, fun data => ?_⟩
  rcases data with m | body
  · trivial
  refine ⟨trivial, fun verdict => ?_⟩
  rcases verdict with f | a
  · trivial
  · trivial

/-- **The echo application answers requests that agree alike**, admitted or not. -/
theorem serve_eq_of_agreeOnCovered (g : Gate) (now : Int64) (id : FieldValue) {r : Request}
    {fields : Fields} (h : AgreeOnCovered r.fields fields) :
    g.serve now (application id) ⟨{ r.toHead with fields := fields }, r.body⟩ =
      g.serve now (application id) r :=
  Gate.serve_eq_of_isBlind h rfl (isBlind_application id r.toHead)

end Echo

end Countersign.Serving
