import Countersign.Credentials.Reader
import Countersign.Event
import Countersign.Http.Message
import Countersign.Keys.Name

/-!
# Faults

Why a message was not signed, or not accepted. A fault is its cause; everything
shown of it is a function of the cause: its kind, its wording, the HTTP status a
server answers with, and the event that is logged when it arises.

Faults of the first three kinds are due to the other side and are reported back to
it. Faults of the other two are due to this side: it was asked to sign in a name it
does not own, or the request context was used where there is none.
-/

namespace Countersign

/-- The kinds of fault. -/
inductive Fault.Kind where
  /-- The credentials are no credentials at all. -/
  | malformedHeader
  /-- The credentials cannot authenticate the message. -/
  | invalidHeader
  /-- The message is not authentic, or not acceptable. -/
  | authorizationFailed
  /-- This side failed to sign with credentials of its own. -/
  | callerConfiguration
  /-- The request context was used in the wrong place. -/
  | programmer
deriving DecidableEq

/-- The header fields that carry credentials. -/
inductive Carrier where
  | authorization
  | signedResponse
deriving DecidableEq

/-- The name of a field that carries credentials. -/
def Carrier.name : Carrier → Text
  | authorization => "Authorization".toList
  | signedResponse => "X-SignedResponse".toList

/-- Why a message was not signed or not accepted. -/
inductive Fault where
  /-- A text given as credentials is none. -/
  | malformed (cause : Unreadable)
  /-- The request has no `Authorization` field. -/
  | absent
  /-- The request has several `Authorization` fields. -/
  | repeated
  /-- The field holds something other than visible ASCII. -/
  | notVisible (field : Carrier)
  /-- The field does not hold credentials. -/
  | unreadable (field : Carrier) (cause : Unreadable)
  /-- The credentials of a request lack parts. -/
  | incomplete (missing : List Part)
  /-- The credentials of a request do not say who signed it, or when. -/
  | partnerOrTimeUnset
  /-- A field that the credentials cover does not occur. -/
  | coveredFieldAbsent (name : Text)
  /-- A response does not have exactly one `X-SignedResponse` field. -/
  | responseFieldCount (status : Http.Status) (count : Nat)
  /-- The credentials of a response lack parts. -/
  | responseIncomplete (missing : List Part)
  /-- The scheme is not the one that is supported. -/
  | unknownScheme (scheme : Option Text)
  | timestampMissing
  /-- The credentials name no partner or no key. -/
  | keyNotNamed
  /-- There is no key of that name. -/
  | keyUnknown (name : KeyName)
  /-- The message was signed too long ago, or too far ahead. -/
  | expired
  /-- The signature is not the one of this message. -/
  | badSignature
  /-- The message was signed by another partner. -/
  | wrongPartner (asked : Text)
  /-- A message could not be signed. -/
  | notSigned (cause : Fault)
  /-- Credentials of a request that no header field can carry. -/
  | notCarriable
  /-- Credentials of a response that no header field can carry. -/
  | responseNotCarriable
  /-- A request context was opened outside of every scope. -/
  | openedOutsideScope
  /-- No request context is open. -/
  | noContext
  /-- The body of the request in hand is not digested. -/
  | notDigested
  /-- A fault stated by an application, of a kind without a cause. -/
  | stated (kind : Fault.Kind) (message : Text)
  /-- A fault stated by an application, with its cause. -/
  | statedBecause (message : Text) (cause : Fault)
deriving DecidableEq

namespace Fault

/-- The kind of a fault. -/
def kind : Fault → Kind
  | malformed _ => .malformedHeader
  | absent | repeated | notVisible _ | unreadable _ _ | incomplete _ | partnerOrTimeUnset
  | coveredFieldAbsent _ | responseFieldCount _ _ | responseIncomplete _ | unknownScheme _
  | timestampMissing | keyNotNamed | keyUnknown _ | notCarriable => .invalidHeader
  | expired | badSignature | wrongPartner _ => .authorizationFailed
  | notSigned _ | statedBecause _ _ => .callerConfiguration
  | responseNotCarriable | openedOutsideScope | noContext | notDigested => .programmer
  | stated k _ => k

/-- The wording of the cause, without its kind. -/
def detail : Fault → Text
  | malformed cause => cause.detail
  | absent => "No Authorization header provided".toList
  | repeated => "Multiple Authorization headers provided".toList
  | notVisible field => "Invalid ".toList ++ field.name ++ " header: not visible ASCII".toList
  | unreadable field cause => "Invalid ".toList ++ field.name ++ " header: ".toList ++ cause.detail
  | incomplete parts =>
    "Invalid Authorization header: ".toList ++
      Text.join "; ".toList (parts.map fun p => p.name ++ ": may not be null".toList)
  | partnerOrTimeUnset => "Invalid Authorization header".toList
  | coveredFieldAbsent name =>
    "signed-headers specified ".toList ++ name ++ ", but was not found".toList
  | responseFieldCount status count =>
    "Got ".toList ++ status.line ++ " with ".toList ++ Nat.toDigits 10 count ++
      " X-SignedResponse headers, expected 1".toList
  | responseIncomplete parts =>
    "Invalid X-SignedResponse header: missing ".toList ++
      Text.join ", ".toList (parts.map Part.name)
  | unknownScheme scheme =>
    "Unknown authorization scheme, ".toList ++ scheme.getD "null".toList
  | timestampMissing => "timestamp missing".toList
  | keyNotNamed | keyUnknown _ => "Unrecognized partner-id or key-id".toList
  | expired => "Signature expired".toList
  | badSignature => "Invalid signature".toList
  | wrongPartner asked =>
    "Authorization context not valid for operations as '".toList ++ asked ++ "'".toList
  | notSigned _ => "Failed to sign message".toList
  | notCarriable => "partner-id or key-id is not a valid header value".toList
  | responseNotCarriable => "signed response header is not a valid header value".toList
  | openedOutsideScope => "request context opened outside of a request scope".toList
  | noContext =>
    "no request context available; is the PartnerAuth interceptor installed?".toList
  | notDigested => "entity digest not available for this request".toList
  | stated _ message => message
  | statedBecause message _ => message

/-- What is put in front of the wording of each kind. -/
def Kind.heading : Kind → Text
  | malformedHeader => "Malformed authorization header: ".toList
  | invalidHeader => "Invalid authorization header: ".toList
  | authorizationFailed => "Authorization failed: ".toList
  | callerConfiguration | programmer => []

/-- The whole wording of a fault. -/
def message (f : Fault) : Text := f.kind.heading ++ f.detail

/-- The fault behind a fault. -/
def cause? : Fault → Option Fault
  | notSigned cause => some cause
  | statedBecause _ cause => some cause
  | _ => none

/-- The wordings of a fault and of the faults behind it, the outermost first. -/
def chain : Fault → List Text
  | notSigned cause => (notSigned cause).message :: chain cause
  | statedBecause m cause => (statedBecause m cause).message :: chain cause
  | f => [f.message]

/-- Whether the other side is at fault, and is told. -/
def isRecoverable (f : Fault) : Bool :=
  match f.kind with
  | .malformedHeader | .invalidHeader | .authorizationFailed => true
  | .callerConfiguration | .programmer => false

/-- The status a server answers with. -/
def status (f : Fault) : Http.Status :=
  match f.kind with
  | .malformedHeader => ⟨400⟩
  | .invalidHeader => ⟨401⟩
  | .authorizationFailed => ⟨403⟩
  | .callerConfiguration | .programmer => ⟨500⟩

/-- What is logged when a fault arises. -/
def event? : Fault → Option Event
  | responseFieldCount _ _ => some .responseFieldCount
  | unknownScheme _ => some .unknownScheme
  | keyUnknown _ => some .unknownKey
  | expired => some .outsideWindow
  | badSignature => some .signatureMismatch
  | wrongPartner _ => some .wrongPartner
  | notSigned cause => cause.event?
  | _ => none

end Fault

end Countersign
