import Countersign.Proofs.Digest
import Countersign.Proofs.Http.Body
import Countersign.Proofs.Serving.Runs
import Countersign.Proofs.Serving.Verdict
import Countersign.Serving.Gate

/-!
# Reading a request and then checking it

An application reads the body of its request piece by piece or at once, looks at this
and that in between, and then asks whether the request is admitted. What it is told
depends on the head and the bytes of the body alone, not on the portions in which the
body came or on how the application went about reading it
(`Countersign.Serving.Ask.admitted_reply_of_readsToEnd`).

Three invariants of a run carry this.

* **The slot stays.** Modest questions leave it as it is
  (`Countersign.Serving.Program.slot_run`), so the context of the request is still
  there.
* **The account keeps up with the body.** What has been fed into it, followed by what is
  left of the body, is all of the body (`Countersign.Serving.Exchange.Counts`), as long
  as nobody takes the digest.
* **The digest stays** once the body is read (`Countersign.Serving.Exchange.AtEnd`),
  however often it is taken from then on.

At the end of the file, serving becomes a chain of three runs that everything on responses starts
from: the application, the closing of its context, and the reading of the body that it answered
with (`Countersign.Serving.Gate.attended_eq`, `Countersign.Serving.Gate.finish_eq`).
-/

namespace Countersign.Serving

open Http Digest

universe u

/-! ### The account -/

/-- What account `n` has been fed, followed by what is left of the body, is the whole body. -/
def Exchange.Counts (n : Nat) (whole : Bytes) (e : Exchange) : Prop :=
  e.intake.account = some n ∧
    ∃ done, (e.desk.accounts n).Holds done ∧ done ++ e.intake.body.bytes = whole

theorem Intake.holds_record {n : Nat} {d : Desk} {done : Bytes} (h : (d.accounts n).Holds done)
    (p : Piece) : ((record (some n) p d).accounts n).Holds (done ++ p.bytes) := by
  cases p with
  | data b =>
    have haccount : (d.feed n b).accounts n = (d.accounts n).feed b := if_pos rfl
    rw [record, haccount]
    exact Tally.holds_feed h b
  | trailers fields => simpa [record, Piece.bytes] using h
  | failure m => simpa [record, Piece.bytes] using h

@[simp] theorem Desk.accounts_get (d : Desk) : d.get.2.accounts = d.accounts := by
  rw [get]
  split
  · rfl
  · rfl

/-- **A step that takes no digest keeps the account up with the body.** -/
theorem Exchange.Counts.step {n : Nat} {whole : Bytes} {lookups digests : Prop} {e e' : Exchange}
    (h : e.Counts n whole) (hnot : ¬digests) (hstep : e.Step lookups digests e') :
    e'.Counts n whole := by
  obtain ⟨haccount, done, hdone, hwhole⟩ := h
  cases hstep with
  | pending d r account => exact ⟨haccount, done, hdone, hwhole⟩
  | piece d p r account =>
    obtain rfl : account = some n := haccount
    -- The bytes of the piece move from the body to the account.
    refine ⟨rfl, done ++ p.bytes, Intake.holds_record hdone p, ?_⟩
    rw [← hwhole, List.append_assoc]
    rfl
  | context d i hlookups => exact ⟨haccount, done, d.accounts_get.symm ▸ hdone, hwhole⟩
  | fault d i f => exact ⟨haccount, done, hdone, hwhole⟩
  | digest d i c hdigests => exact absurd hdigests hnot

/-- **Patient programs keep the account up with the body.** -/
theorem Program.counts_run {α : Type} {p : Program α} (hp : p.Asks Ask.IsPatient) (policy : Policy)
    (now : Int64) {n : Nat} {whole : Bytes} {e : Exchange} (h : e.Counts n whole) :
    (p.run policy now e).2.Counts n whole :=
  run_invariant_of_patient_step hp policy now (fun hnot hstep he => he.step hnot hstep) h

/-! ### After the end of the body -/

/-- Nothing is left to read, and the digest of account `n` is that of the whole body, be it taken
already or not. -/
structure Exchange.AtEnd (n : Nat) (whole : Bytes) (e : Exchange) : Prop where
  body : e.intake.body = []
  digest : (e.desk.accounts n).digest = ofBytes whole

/-- An account that has kept up with a body comes to its end with it. -/
theorem Exchange.Counts.atEnd {n : Nat} {whole : Bytes} {e : Exchange} (h : e.Counts n whole)
    (hend : e.intake.body = []) : e.AtEnd n whole := by
  obtain ⟨-, done, hdone, hwhole⟩ := h
  rw [hend, show Body.bytes [] = [] from rfl, List.append_nil] at hwhole
  exact ⟨hend, hwhole ▸ Tally.digest_of_holds hdone⟩

/-- Taking a digest does not change it, nor that of any other account. -/
@[simp] theorem Desk.digest_takeDigest (d : Desk) (c : Context) (n : Nat) :
    ((d.takeDigest c).2.accounts n).digest = (d.accounts n).digest := by
  rw [takeDigest]
  cases c.account with
  | none => rfl
  | some m =>
    by_cases hm : n = m
    · subst hm
      simp [setAccount, Tally.take, Tally.digest]
    · simp [setAccount, hm]

/-- **At the end of the body, no step changes a digest any more.** -/
theorem Exchange.AtEnd.step {n : Nat} {whole : Bytes} {lookups digests : Prop} {e e' : Exchange}
    (h : e.AtEnd n whole) (hstep : e.Step lookups digests e') : e'.AtEnd n whole := by
  obtain ⟨hbody, hdigest⟩ := h
  cases hstep with
  | pending d r account => exact absurd hbody (List.cons_ne_nil _ _)
  | piece d p r account => exact absurd hbody (List.cons_ne_nil _ _)
  | context d i hlookups => exact ⟨hbody, d.accounts_get.symm ▸ hdigest⟩
  | fault d i f => exact ⟨hbody, hdigest⟩
  | digest d i c hdigests => exact ⟨hbody, (d.digest_takeDigest c n).trans hdigest⟩

/-- **At the end of the body, modest programs change no digest any more.** -/
theorem Program.atEnd_run {α : Type} {p : Program α} (hp : p.Asks Ask.IsModest) (policy : Policy)
    (now : Int64) {n : Nat} {whole : Bytes} {e : Exchange} (h : e.AtEnd n whole) :
    (p.run policy now e).2.AtEnd n whole :=
  run_invariant_of_step hp policy now (fun hstep he => he.step hstep) h

/-! ### Checking what was read -/

/-- The exchange an application finds when it is handed a request. -/
def Exchange.arrival (r : Request) : Exchange :=
  let context := Gate.contextOf r.toHead
  ⟨({ Desk.start with slot := .vacant }.install context).2, ⟨r.body, context.account⟩⟩

/-- A program that reads a request to its end: at first it asks patient questions only, until no
frame is unread. After that it may ask what it likes, and often, as long as it is modest. -/
def Program.ReadsToEnd {α : Type} (p : Program α) (policy : Policy) (now : Int64)
    (r : Request) : Prop :=
  ∃ (β : Type) (read : Program β) (next : β → Program α), p = read >>= next ∧
    read.Asks Ask.IsPatient ∧ (read.run policy now (Exchange.arrival r)).2.intake.body = [] ∧
    ∀ b, (next b).Asks Ask.IsModest

/-- Reading on comes to the end of a sound body, and gives all its data. -/
theorem Intake.drain_of_isSound (account : Option Nat) {b : Body} (h : b.IsSound) (d : Desk) :
    (drain account b d).1 = .ok b.bytes ∧ (drain account b d).2.1 = [] := by
  induction b generalizing d with
  | nil => exact ⟨rfl, rfl⟩
  | cons frame r ih =>
    cases frame with
    | pending => exact ih h.tail d
    | piece p =>
      obtain ⟨hdata, hend⟩ := ih h.tail (record account p d)
      have hnot : ∀ m, p ≠ .failure m := by
        rintro m rfl
        exact h m List.mem_cons_self
      have hstep : drain account (.piece p :: r) d =
          ((drain account r (record account p d)).1.map (p.bytes ++ ·),
            (drain account r (record account p d)).2) := by
        cases p with
        | data bytes => rfl
        | trailers fields => rfl
        | failure m => exact absurd rfl (hnot m)
      rw [hstep, hdata]
      exact ⟨rfl, hend⟩

/-- **Reading all at once reads to the end** of a sound body. -/
theorem Program.readsToEnd_rest (policy : Policy) (now : Int64) {r : Request}
    (h : r.body.IsSound) : Ask.rest.once.ReadsToEnd policy now r :=
  ⟨_, Ask.rest.once, pure, rfl, ⟨trivial, fun _ => trivial⟩, (Intake.drain_of_isSound _ h _).2,
    fun _ => trivial⟩

/-- The application that reads its request, checks it then, and goes on with what it is told. It
reports what checking said. -/
def checking {α : Type} (read : Head → Program α)
    (go : Head → α → Except Fault Admitted → Program (Except Failure Response)) :
    Application (Except Fault Admitted) := fun head => do
  let a ← read head
  let verdict ← Ask.admitted.once
  let result ← go head a verdict
  return (result, verdict)

/-- Without an `Authorization` field there are no credentials. -/
theorem Gate.ofRequest_of_not_hasCredentials {head : Head} (h : hasCredentials head = false) :
    Credentials.ofRequest head.fields = .error .absent := by
  have hvalues : head.fields.values Carrier.authorization.name = [] := by
    simpa [hasCredentials, Fields.has] using h
  rw [Credentials.ofRequest, Carrier.values, hvalues]

namespace Desk

/-- What a request presents, with its context in the slot and the digest of its body in the
account. -/
theorem presented_of_digest {d : Desk} {c : Context} {body : Bytes} (hslot : d.slot = .holding c)
    (hbody : Gate.hasCredentials c.head = true →
      ∃ n, c.account = some n ∧ (d.accounts n).digest = ofBytes body) :
    d.presented.1 = (do
      let a ← Credentials.ofRequest c.head.fields
      let r ← Canonical.Request.received c.head a.signedNames (Digest.ofBytes body)
      return ⟨a, r⟩) := by
  obtain ⟨e, hget, haccounts⟩ : ∃ e, d.get = (.ok c, e) ∧ e.accounts = d.accounts := by
    rw [get, hslot]
    exact ⟨_, rfl, rfl⟩
  rw [presented, hget]
  simp only
  cases hc : Gate.hasCredentials c.head with
  | false =>
    -- Nothing is digested, but nobody gets to ask for a digest either.
    rw [Gate.ofRequest_of_not_hasCredentials hc]
    rfl
  | true =>
    obtain ⟨n, haccount, hdigest⟩ := hbody hc
    rw [← haccounts] at hdigest
    rcases Credentials.ofRequest c.head.fields with f | a
    · rfl
    simp only [takeDigest, haccount, hdigest]
    show _ = (Canonical.Request.received c.head a.signedNames (ofBytes body) >>= _)
    rcases Canonical.Request.received c.head a.signedNames (ofBytes body) with f | r
    · rfl
    · rfl

/-- Checking is admitting what is presented. -/
theorem admitted_fst (d : Desk) (ring : KeyRing) (window : UInt64) (now : Int64) :
    (d.admitted ring window now).1 =
      d.presented.1 >>= fun i => admission ring window now i.credentials i.request := by
  rw [admitted]
  obtain ⟨f | i, e⟩ := d.presented
  · rfl
  show _ = admission ring window now i.credentials i.request
  simp only
  rcases admission ring window now i.credentials i.request with f | a
  · rfl
  · rfl

/-- **Checking at the end of the body**: with the context in the slot and the digest of the body in
the account, what is said is the verdict on the body. -/
theorem admitted_of_digest {d : Desk} {c : Context} (policy : Policy) (now : Int64) {body : Bytes}
    (hslot : d.slot = .holding c)
    (hbody : Gate.hasCredentials c.head = true →
      ∃ n, c.account = some n ∧ (d.accounts n).digest = ofBytes body) :
    (d.admitted policy.ring policy.window now).1 = policy.verdict now c.head body := by
  rw [admitted_fst, presented_of_digest hslot hbody, Policy.verdict]
  simp only [bind_assoc, pure_bind]

end Desk

/-- **Reading and then checking**: whoever reads a request to its end and checks it then is told
the verdict on its head and the bytes of its body. -/
theorem Ask.admitted_reply_of_readsToEnd {α : Type} {read : Program α} {policy : Policy}
    {now : Int64} {r : Request} (h : read.ReadsToEnd policy now r) :
    (Ask.admitted.reply policy now (read.run policy now (Exchange.arrival r)).2).1 =
      policy.verdict now r.toHead r.body.bytes := by
  obtain ⟨β, first, next, rfl, hpatient, hend, hmodest⟩ := h
  -- The slot holds the context until the check, the account the digest.
  replace hmodest := hmodest (first.run policy now (Exchange.arrival r)).1
  have hfirst := Program.slot_run (hpatient.mono fun _ => Ask.IsPatient.isModest) policy now
    (Exchange.arrival r)
  have hslot := (Program.slot_run hmodest policy now _).trans hfirst
  rw [Program.run_bind]
  refine Desk.admitted_of_digest policy now hslot fun hc => ⟨0, if_pos hc, ?_⟩
  have hstart : (Exchange.arrival r).Counts 0 r.body.bytes :=
    ⟨if_pos hc, [], Tally.holds_untouched, rfl⟩
  have hread := (Program.counts_run hpatient policy now hstart).atEnd hend
  exact (Program.atEnd_run hmodest policy now hread).digest

/-! ### Serving -/

/-- A body that is at hand is read without a question. -/
theorem Flow.frames_ofBody (b : Body) : (ofBody b).frames = .done b.upToFailure := by
  induction b with
  | nil => rfl
  | cons f r ih =>
    cases f with
    | pending =>
      simp only [ofBody, frames, ih]
      rfl
    | piece p =>
      cases p with
      | failure m => rfl
      | data bytes =>
        simp only [ofBody, frames, ih]
        rfl
      | trailers fields =>
        simp only [ofBody, frames, ih]
        rfl

/-- Where the body of a response is read: it has been noted whether anybody asked for the
context. -/
def Exchange.noted (e : Exchange) : Exchange :=
  { e with desk.log := e.desk.log ++ if e.desk.accesses 0 = 0 then [.authNotChecked] else [] }

namespace Gate

variable {β : Type u} [Flowing β]

/-- **Finishing a response** is reading its body to the end, and signing it. -/
theorem finish_eq (g : Gate) (now : Int64) (head : Head) (response : ResponseWith β)
    (e : Exchange) :
    g.finish now head response e =
      let read := (Flowing.flow response.body).frames.run g.toPolicy now e.noted
      match read.1.collect with
      | .error m => (.error (.other m), read.2)
      | .ok (body, _) =>
        let signed := g.sign now head response.status response.fields body read.2.desk
        (.ok signed.1, { read.2 with desk := signed.2 }) := by
  have hnoted : (if e.desk.accesses 0 = 0 then e.desk.note .authNotChecked else e.desk) =
      e.noted.desk := by
    rw [Exchange.noted]
    split
    · rfl
    · simp only [List.append_nil]
  rw [finish]
  simp only [hnoted]
  rfl

/-- Reading a body that is at hand leaves everything as it is. -/
theorem finish_of_body (g : Gate) (now : Int64) (head : Head) (response : Response)
    (e : Exchange) :
    g.finish now head response e =
      match response.body.collect with
      | .error m => (.error (.other m), e.noted)
      | .ok (body, _) =>
        let signed := g.sign now head response.status response.fields body e.noted.desk
        (.ok signed.1, { e.noted with desk := signed.2 }) := by
  have hframes : (Flowing.flow response.body).frames = .done response.body.upToFailure :=
    Flow.frames_ofBody _
  rw [finish_eq, hframes]
  simp only [Program.run, Body.collect_upToFailure]

variable {ρ : Type} (g : Gate) (now : Int64) (app : ApplicationWith β ρ) (r : Request)

/-- Attending to a request in a new scope. -/
def attended : (Except Failure (AnswerWith β) × ρ) × Exchange :=
  g.attend now app r { Desk.start with slot := .vacant }

/-- Where a request is when the application has ended and its context has been closed. -/
def closed : Exchange :=
  let e := ((app r.toHead).run g.toPolicy now (Exchange.arrival r)).2
  { e with desk := e.desk.close }

/-- **Serving a request** is attending to it in a scope of its own. -/
theorem serve_eq : g.serve now app r =
    ((g.attended now app r).1, { (g.attended now app r).2.desk with slot := .outside }) :=
  rfl

/-- **Attending to a request** is running the application, closing its context, and then
finishing the response if there are credentials to answer. -/
theorem attended_eq : g.attended now app r =
    let ran := ((app r.toHead).run g.toPolicy now (Exchange.arrival r)).1
    match ran.1 with
    | .error f => ((.error f, ran.2), g.closed now app r)
    | .ok response =>
      if hasCredentials r.toHead then
        let finished := g.finish now r.toHead response (g.closed now app r)
        ((finished.1, ran.2), finished.2)
      else ((.ok ⟨.passthrough, response⟩, ran.2), g.closed now app r) := by
  rw [attended, attend, handled, closed, ← Exchange.arrival.eq_def]
  obtain ⟨⟨f | response, report⟩, e⟩ := (app r.toHead).run g.toPolicy now (Exchange.arrival r)
  · rfl
  · rfl

/-- What an application reports is what its program ends with. -/
theorem report_serve :
    (g.serve now app r).1.2 = ((app r.toHead).run g.toPolicy now (Exchange.arrival r)).1.2 := by
  rw [serve_eq, attended_eq]
  simp only
  split
  · rfl
  · split
    · rfl
    · rfl

end Gate

/-- **What is reported of checking** is what checking comes to after everything before it. -/
theorem Gate.report_serve_checking_eq_reply (g : Gate) (now : Int64) {α : Type}
    (before : Head → Program α)
    (go : Head → α → Except Fault Admitted → Program (Except Failure Response)) (r : Request) :
    (g.serve now (checking before go) r).1.2 = (Ask.admitted.reply g.toPolicy now
      ((before r.toHead).run g.toPolicy now (Exchange.arrival r)).2).1 := by
  rw [report_serve, checking, Program.run_bind, Program.run_bind, Ask.run_once, Program.run_bind,
    Program.run_pure]

/-- If the request was read to its end before, that is the verdict. -/
theorem Gate.report_serve_checking (g : Gate) (now : Int64) {α : Type} (read : Head → Program α)
    (go : Head → α → Except Fault Admitted → Program (Except Failure Response)) (r : Request)
    (hread : (read r.toHead).ReadsToEnd g.toPolicy now r) :
    (g.serve now (checking read go) r).1.2 = g.verdict now r.toHead r.body.bytes :=
  (g.report_serve_checking_eq_reply now read go r).trans (Ask.admitted_reply_of_readsToEnd hread)

end Countersign.Serving
