import Countersign.Text.Blank

/-!
# Events worth a line in the log

What is noted for the operator while messages are signed and verified. An event is
its cause; severity and wording are functions of it.
-/

namespace Countersign

/-- Something the operator should know about. -/
inductive Event where
  | signatureMismatch
  | unknownScheme
  | unknownKey
  | outsideWindow
  | wrongPartner
  | responseFieldCount
  | lateBytes
  | authNotChecked
  | contextReplaced
  | contextNotOpen
  | contextOutsideScope
  | responseNotSigned
  | handlerFailed
deriving DecidableEq

namespace Event

/-- Whether the event is an error of this side, and not just a warning. -/
def isError : Event → Bool
  | responseNotSigned | handlerFailed => true
  | _ => false

/-- The wording of an event. -/
def message : Event → String
  | signatureMismatch => "signature verification failed"
  | unknownScheme => "unknown authorization scheme"
  | unknownKey => "cannot sign with requested key"
  | outsideWindow => "authorization timestamp outside validity window"
  | wrongPartner => "authorization not valid for partner"
  | responseFieldCount => "unexpected number of signed response headers"
  | lateBytes =>
    "request body read after its digest was taken; these bytes are not covered by the signature"
  | authNotChecked => "request auth info was not accessed, i.e. auth info was not checked"
  | contextReplaced => "request context opened while another was still open"
  | contextNotOpen => "request context closed but none was open"
  | contextOutsideScope => "request context closed outside of a request scope"
  | responseNotSigned => "failed to sign response"
  | handlerFailed => "request handler failed"

/-- The line of an event: severity and wording. -/
def line (e : Event) : Text :=
  (if e.isError then "ERROR " else "WARN ").toList ++ e.message.toList

end Event

end Countersign
