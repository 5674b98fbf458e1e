import Countersign.Keys.Source
import Countersign.Serving.Countersigning
import Countersign.Serving.Flow

/-!
# The gate in front of an application

Every request passes through the gate on its way to the application, and the
response on its way back.

* **A request without credentials** passes. A context is opened for it, without an
  account to digest its body in, and the response of the application is the answer
  as it stands.
* **Any other request** has its body digested while the application reads it. When
  the application has answered, the context is closed, the body of the response is
  read to its end, and the response is signed with the key the request names. If
  the credentials of the request cannot be read, or no such key is known, the
  response goes out unsigned. Trailers do not go out.

The gate does not judge requests: whether credentials hold is for the application to
ask. That it never asked is logged.

An application that fails has its failure passed on (`Countersign.Serving.Gate.serve`)
or turned into a response (`Countersign.Serving.Gate.respond`): what the other side is
to blame for is told to it, and anything else is not.
-/

namespace Countersign.Serving

open Http

universe u

/-- Why there is no response. -/
inductive Failure where
  | fault (f : Fault)
  /-- A failure that has nothing to do with credentials. -/
  | other (message : Text)
deriving DecidableEq

/-- What became of the response of an application. -/
inductive Outcome where
  /-- The request had no credentials, and nothing was done. -/
  | passthrough
  /-- The response could not be signed. -/
  | unsigned
  | signed
deriving DecidableEq

/-- A response, and what was done about it. -/
structure AnswerWith (β : Type u) where
  outcome : Outcome
  response : ResponseWith β

/-- An answer whose body is at hand. -/
abbrev Answer := AnswerWith Body

/-- An application: for every request a program that ends with a response or a failure, and
with a report of its own. -/
abbrev ApplicationWith (β : Type u) (ρ : Type) :=
  Head → Program (Except Failure (ResponseWith β) × ρ)

/-- An application that has the body of its response at hand when it ends. -/
abbrev Application := ApplicationWith Body

/-- What a server checks requests with, and the fields of responses that it signs. -/
structure Gate extends Policy where
  /-- The names of the fields to sign where a response has them. -/
  names : List Text

namespace Gate

/-- The gate that settings make around a key ring. -/
def ofSettings (s : Settings) (ring : KeyRing) : Gate :=
  ⟨⟨ring, s.validityWindow⟩, s.signedResponseNames⟩

/-- The gate that settings make of the source of keys that they name. -/
def build (sources : KeySources) (s : Settings) (files : Files) : Except KeyFault Gate :=
  (sources.build s files).map (ofSettings s)

/-- Whether a request has credentials, be they good or bad. -/
def hasCredentials (head : Head) : Bool := head.fields.has Carrier.authorization.name

/-- The context of a request. Every request has a desk of its own, at which its context is
number 0 and so is the account of its body. -/
def contextOf (head : Head) : Context :=
  ⟨0, head, if hasCredentials head then some 0 else none⟩

variable {β : Type u} {ρ : Type}

/-- Let an application answer, with the context open for as long as it takes. In a scope a
context can always be opened. -/
def handled (g : Gate) (now : Int64) (app : ApplicationWith β ρ) (r : Request) (d : Desk) :
    (Except Failure (ResponseWith β) × ρ) × Exchange :=
  let context := contextOf r.toHead
  let (result, e) := (app r.toHead).run g.toPolicy now
    ⟨(d.install context).2, ⟨r.body, context.account⟩⟩
  (result, { e with desk := e.desk.close })

variable [Flowing β]

/-- Sign a response whose body has been read to its end. -/
def sign (g : Gate) (now : Int64) (head : Head) (status : Status) (fields : Fields) (body : Bytes)
    (d : Desk) : AnswerWith β × Desk :=
  let unsigned : AnswerWith β := ⟨.unsigned, status, fields, Flowing.ofBytes body⟩
  match Credentials.ofRequest head.fields with
  | .error _ => (unsigned, d)
  | .ok asked =>
    match countersign g.ring now asked g.names fields body with
    | .error f => (unsigned, (d.noteFault f).note .responseNotSigned)
    | .ok c =>
      match FieldValue.ofText? c.text with
      | none => (unsigned, d.note .responseNotSigned)
      | some v =>
        (⟨.signed, status, fields.set Carrier.signedResponse.fieldName v, Flowing.ofBytes body⟩, d)

/-- Finish the response to a request with credentials: read its body to the end, and sign it. -/
def finish (g : Gate) (now : Int64) (head : Head) (response : ResponseWith β) (e : Exchange) :
    Except Failure (AnswerWith β) × Exchange :=
  let d := if e.desk.accesses 0 = 0 then e.desk.note .authNotChecked else e.desk
  let (frames, e) := (Flowing.flow response.body).frames.run g.toPolicy now { e with desk := d }
  match frames.collect with
  | .error m => (.error (.other m), e)
  | .ok (body, _) =>
    let (answer, d) := g.sign now head response.status response.fields body e.desk
    (.ok answer, { e with desk := d })

/-- Attend to a request inside of its scope: the answer or the failure, and what the application
reports. The context is closed before anything of the response is read. -/
def attend (g : Gate) (now : Int64) (app : ApplicationWith β ρ) (r : Request) (d : Desk) :
    (Except Failure (AnswerWith β) × ρ) × Exchange :=
  match g.handled now app r d with
  | ((.error f, report), e) => ((.error f, report), e)
  | ((.ok response, report), e) =>
    if hasCredentials r.toHead then
      let (answer, e) := g.finish now r.toHead response e
      ((answer, report), e)
    else ((.ok ⟨.passthrough, response⟩, report), e)

/-- Serve a request in a scope of its own. -/
def serve (g : Gate) (now : Int64) (app : ApplicationWith β ρ) (r : Request) :
    (Except Failure (AnswerWith β) × ρ) × Desk :=
  Desk.start.inScope fun d =>
    let (result, e) := g.attend now app r d
    (result, e.desk)

end Gate

/-! ### Failures as responses -/

namespace Failure

/-- The fault that is told to the other side, if there is one. -/
def told? : Failure → Option Fault
  | fault f => if f.isRecoverable then some f else none
  | other _ => none

/-- What is logged when a failure is turned into a response. -/
def event? (f : Failure) : Option Event :=
  match f.told? with
  | some _ => none
  | none => some .handlerFailed

/-- Status and wording that go out for a failure. -/
def outward (f : Failure) : Status × Text :=
  match f.told? with
  | some f => (f.status, f.message)
  | none => (⟨500⟩, "Internal Server Error".toList)

/-- The media type of a plain text. -/
def plainText : FieldValue :=
  ⟨Utf8.encode "text/plain; charset=utf-8".toList, List.all_eq_true.1 (by decide)⟩

/-- The response that goes out for a failure. -/
def response (f : Failure) : Response :=
  let (status, message) := f.outward
  ⟨status, [(FieldName.contentType, plainText)], .ofBytes (Utf8.encode message)⟩

end Failure

/-- Serve a request so that there is a response in any case. -/
def Gate.respond {ρ : Type} (g : Gate) (now : Int64) (app : Application ρ) (r : Request) :
    (Response × ρ) × Desk :=
  match g.serve now app r with
  | ((.ok answer, report), d) => ((answer.response, report), d)
  | ((.error f, report), d) =>
    ((f.response, report), { d with log := d.log ++ f.event?.toList })

end Countersign.Serving
