import Countersign.Proofs.Serving.Demands
import Countersign.Proofs.Serving.Passage
import Countersign.Serving.Echo

/-!
# What the echo application decides

The echo application reads its request to the end, has it checked, and answers with what it
is told (`Countersign.Serving.Echo.run_application`). Behind the gate this makes a decision
on every request with a sound body that is no health check
(`Countersign.Serving.Echo.status_decides`): the status of the answer is 200 if the request
meets every demand, and that of the first unmet demand otherwise. The portions in which the
body came and the identifier of the request make no difference, and nothing that happens on
the way out does.
-/

namespace Countersign.Serving

open Http

/-- What is logged about an application that reads its request in time says nothing of late
bytes. -/
theorem Gate.lateBytes_not_mem_log_serve {ρ : Type} {g : Gate} {now : Int64} {app : Application ρ}
    {r : Request} (hmodest : (app r.toHead).Asks Ask.IsModest)
    (hread : (app r.toHead).ReadsToEnd g.toPolicy now r) :
    .lateBytes ∉ (g.serve now app r).2.log := by
  have hclosed : .lateBytes ∉ (g.closed now app r).desk.log := by
    rw [closed_eq_of_isModest hmodest]
    exact hread.lateBytes_not_mem_log
  show .lateBytes ∉ (g.attended now app r).2.desk.log
  rcases attended_cases g now app r with
    ⟨f, -, -, hstate⟩ | ⟨response, -, -, -, hstate⟩ | ⟨response, -, -, -, hstate⟩
  · rw [hstate]
    exact hclosed
  · rw [hstate]
    exact hclosed
  · -- What the gate logs on the way out is about other things, and the body asks nothing.
    have hbody : (Flowing.flow response.body).frames = .done response.body.upToFailure :=
      Flow.frames_ofBody _
    have hfilter : (g.finish now r.toHead response (g.closed now app r)).2.desk.log.filter
        (fun v => decide (v = .lateBytes)) = [] := by
      rw [filter_log_finish (fun f v h => decide_eq_false (Fault.of_event?_eq_some h).2) rfl
        response _ (by rw [hbody]; rfl), List.filter_eq_nil_iff.mpr fun v hv => ?_]
      · split <;> rfl
      · rw [decide_eq_true_eq]
        rintro rfl
        exact hclosed hv
    rw [hstate]
    intro hmem
    exact List.filter_eq_nil_iff.mp hfilter _ hmem (decide_eq_true rfl)

namespace Echo

/-- The answer to a request, given the verdict on it. -/
def answer (id : FieldValue) (head : Head) (body : Bytes) : Except Fault Admitted → Response
  | .error f => response f.status (some id) (refusal id f)
  | .ok a => response ⟨200⟩ (some id) (echo id a head body)

variable {id : FieldValue} {r : Request}

/-- What the application does after it has read its request. -/
def afterReading (id : FieldValue) (head : Head) :
    Except Text Bytes → Program (Except Failure Response × Unit)
  | .error m => pure (.error (.other m), ())
  | .ok body => Ask.admitted.once >>= fun verdict => pure (.ok (answer id head body verdict), ())

theorem application_eq (h : isHealthCheck r.toHead = false) :
    application id r.toHead = Ask.rest.once >>= afterReading id r.toHead := by
  rw [application, h]
  simp only [Bool.false_eq_true, if_false]
  refine congrArg _ (funext fun data => ?_)
  cases data with
  | error m => rfl
  | ok body =>
    refine congrArg (Ask.admitted.once >>= ·) (funext fun verdict => ?_)
    cases verdict with
    | error f => rfl
    | ok a => rfl

/-- The application leaves the context alone. -/
theorem asks_application (h : isHealthCheck r.toHead = false) :
    (application id r.toHead).Asks Ask.IsModest := by
  rw [application_eq h]
  refine ⟨trivial, fun data => ?_⟩
  cases data with
  | error m => trivial
  | ok body => exact ⟨trivial, fun _ => trivial⟩

/-- The application reads its request to the end, and has it checked only then. -/
theorem readsToEnd_application (h : isHealthCheck r.toHead = false) (hbody : r.body.IsSound)
    (policy : Policy) (now : Int64) :
    (application id r.toHead).ReadsToEnd policy now r := by
  refine ⟨_, Ask.rest.once, afterReading id r.toHead, application_eq h,
    ⟨trivial, fun _ => trivial⟩, (Intake.drain_of_isSound _ hbody _).2, fun data => ?_⟩
  cases data with
  | error m => trivial
  | ok body => exact ⟨trivial, fun _ => trivial⟩

/-- **The application answers with the verdict** on its request and all of the body. -/
theorem run_application (h : isHealthCheck r.toHead = false) (hbody : r.body.IsSound)
    (policy : Policy) (now : Int64) :
    ((application id r.toHead).run policy now (Exchange.arrival r)).1.1 =
      .ok (answer id r.toHead r.body.bytes (policy.verdict now r.toHead r.body.bytes)) := by
  have hverdict := Ask.admitted_reply_of_readsToEnd (Program.readsToEnd_rest policy now hbody)
  have hdata : ((Ask.rest.once).run policy now (Exchange.arrival r)).1 = .ok r.body.bytes :=
    (Intake.drain_of_isSound _ hbody _).1
  rw [application_eq h, Program.run_bind, hdata, afterReading, Program.run_bind, Ask.run_once,
    Program.run_pure, hverdict]

theorem isSound_answer (id : FieldValue) (head : Head) (body : Bytes)
    (verdict : Except Fault Admitted) : (answer id head body verdict).body.IsSound := by
  cases verdict with
  | error f => exact Body.isSound_ofBytes _
  | ok a => exact Body.isSound_ofBytes _

/-- What goes out has the status of the verdict, signed or not. -/
theorem exists_serve_eq_ok (g : Gate) (now : Int64) (h : isHealthCheck r.toHead = false)
    (hbody : r.body.IsSound) :
    ∃ a, (g.serve now (application id) r).1.1 = .ok a ∧ a.response.status =
      (answer id r.toHead r.body.bytes (g.verdict now r.toHead r.body.bytes)).status := by
  have hran := @run_application id r h hbody g.toPolicy now
  cases hserve : (g.serve now (application id) r).1.1 with
  | error f =>
    rcases Gate.serve_eq_error_iff.mp hserve with hf | ⟨-, response, m, hresponse, hfails, -⟩
    · exact absurd (hran.symm.trans hf) (by simp)
    · obtain rfl := Except.ok.inj (hran.symm.trans hresponse)
      rw [Gate.given_of_body, Body.failsWith_upToFailure_iff] at hfails
      exact absurd (isSound_answer _ _ _ _) hfails.not_isSound
  | ok a =>
    obtain ⟨response, hresponse, hconveys⟩ := Gate.conveys_of_serve_eq_ok hserve
    obtain rfl := Except.ok.inj (hran.symm.trans hresponse)
    exact ⟨a, rfl, hconveys.status⟩

/-- **The decision on a request** that is no health check, for every set of keys, clock, window
and identifier, and in whatever portions a sound body comes. There is an answer; its status is 200
exactly if the request meets every demand, and otherwise that of the first demand that it does
not meet, so it is neither 400 nor 500. No byte of the body is read after its digest was taken. -/
theorem status_decides (g : Gate) (now : Int64) (id : FieldValue) (r : Request)
    (hhealth : ¬(r.method.text = "GET".toList ∧ r.target.path = "/health".toList))
    (hbody : r.body.IsSound) :
    ∃ a, (g.serve now (application id) r).1.1 = .ok a ∧
      (a.response.status = ⟨200⟩ ↔
        ∀ d : Demand, d.Met g.toPolicy now r.toHead r.body.bytes) ∧
      (∀ d : Demand, d.IsFirstUnmet g.toPolicy now r.toHead r.body.bytes →
        a.response.status = d.status) ∧
      a.response.status ≠ ⟨400⟩ ∧ a.response.status ≠ ⟨500⟩ ∧
      .lateBytes ∉ (g.serve now (application id) r).2.log := by
  have hcheck : isHealthCheck r.toHead = false := by
    rw [isHealthCheck, ← Bool.decide_and]
    exact decide_eq_false hhealth
  obtain ⟨a, ha, hstatus⟩ := exists_serve_eq_ok g now hcheck hbody
  have hadmitted (h : ∀ d : Demand, d.Met g.toPolicy now r.toHead r.body.bytes) :
      a.response.status = ⟨200⟩ := by
    obtain ⟨who, hverdict⟩ := Policy.exists_verdict_eq_ok h
    rw [hstatus, hverdict]
    rfl
  have hrefused (d : Demand) (hd : d.IsFirstUnmet g.toPolicy now r.toHead r.body.bytes) :
      a.response.status = d.status := by
    obtain ⟨f, hverdict, hf⟩ := Policy.exists_verdict_eq_error hd
    rw [hstatus, hverdict]
    exact hf
  have hall : (∀ d : Demand, d.Met g.toPolicy now r.toHead r.body.bytes) ∨
      a.response.status = ⟨401⟩ ∨ a.response.status = ⟨403⟩ := by
    by_contra hnot
    obtain ⟨hunmet, hneither⟩ := not_or.mp hnot
    obtain ⟨d, hd⟩ := Demand.exists_isFirstUnmet hunmet
    exact hneither (hrefused d hd ▸ d.status_cases)
  have hother (s : Status) (h : s ≠ ⟨200⟩ ∧ s ≠ ⟨401⟩ ∧ s ≠ ⟨403⟩) : a.response.status ≠ s := by
    rintro rfl
    rcases hall with hmet | h401 | h403
    · exact h.1 (hadmitted hmet)
    · exact h.2.1 h401
    · exact h.2.2 h403
  refine ⟨a, ha, ⟨fun h200 => ?_, hadmitted⟩, hrefused, hother ⟨400⟩ (by decide),
    hother ⟨500⟩ (by decide), Gate.lateBytes_not_mem_log_serve (asks_application hcheck)
      (readsToEnd_application hcheck hbody g.toPolicy now)⟩
  rcases hall with hmet | h401 | h403
  · exact hmet
  · exact absurd (h200.symm.trans h401) (by decide)
  · exact absurd (h200.symm.trans h403) (by decide)

/-- A request out of time, in a scheme that nobody supports, and with a signature that is none: it
is out of time. -/
theorem status_decides_of_late_request :
    let g : Gate := ⟨⟨KeyRing.ofList [(⟨"bob".toList, "1".toList⟩, [])], 300⟩, []⟩
    let id : FieldValue := ⟨[0x37], List.all_eq_true.mp (by decide)⟩
    let r : Request := ⟨⟨⟨"POST".toList, by decide⟩,
      ⟨[], "/health".toList, none, by decide, by decide⟩,
      [(Carrier.authorization.fieldName,
        ⟨Utf8.encode "x partner-id=bob, key-id=1, timestamp=5, signature=00".toList,
          List.all_eq_true.mp (by decide)⟩)]⟩,
      [.piece (.data [1]), .pending, .piece (.trailers []), .piece (.data [2])]⟩
    ∃ a, (g.serve 400 (application id) r).1.1 = .ok a ∧ a.response.status = ⟨403⟩ := by
  intro g id r
  have hsound : r.body.IsSound := fun m hm => by simp [r] at hm
  obtain ⟨a, ha, -, hrefused, -⟩ := status_decides g 400 id r (by decide) hsound
  have hc : Presents r.fields ⟨some "x".toList, some "bob".toList, some "1".toList, [], some 5,
      some "00".toList, none⟩ := presents_iff.mpr (by decide +kernel)
  refine ⟨a, ha, hrefused .timely ⟨fun hmet => ?_, fun e he => ?_⟩⟩
  · obtain ⟨time, htime, hwindow⟩ := hmet.metBy hc
    obtain rfl := Option.some.inj htime
    exact absurd hwindow (by decide)
  · cases e with
    | readable => exact ⟨_, hc, trivial⟩
    | covered => exact ⟨_, hc, fun n hn => absurd hn List.not_mem_nil⟩
    | complete => exact ⟨_, hc, rfl⟩
    | _ => exact absurd he (by decide)

end Echo

end Countersign.Serving
