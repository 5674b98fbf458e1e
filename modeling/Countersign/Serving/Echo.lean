import Countersign.Json.Writer
import Countersign.Serving.Gate

/-!
# The echo application

An application that reads every request to its end, checks it, and answers with a
JSON object: who asked and what, if the request is admitted, and why it is not
otherwise. Both answers carry the identifier that the request was given on arrival.

One request is answered without being read or checked: a `GET` for `/health`.
-/

namespace Countersign.Serving.Echo

open Http Json

/-- The version that is reported. -/
def version : Text := "0.3.0".toList

/-- The media type of JSON. -/
def mediaType : FieldValue :=
  ⟨Utf8.encode "application/json".toList, List.all_eq_true.1 (by decide)⟩

/-- The name of the field for the identifier of a request. -/
def requestIdName : FieldName := ⟨"x-request-id".toList, by decide, by decide⟩

/-- A JSON response; with an identifier if there is one. -/
def response (status : Status) (id : Option FieldValue) (value : Value) : Response where
  status := status
  fields := (FieldName.contentType, mediaType) :: (id.map fun v => (requestIdName, v)).toList
  body := .ofBytes (Utf8.encode value.text)

/-- Whether a request asks if the application is up. -/
def isHealthCheck (head : Head) : Bool :=
  head.method.text = "GET".toList && head.target.path = "/health".toList

/-- The answer to a health check. -/
def health : Value :=
  .object [("status".toList, .string "ok".toList), ("version".toList, .string version)]

/-- The answer to a request that is not admitted. -/
def refusal (id : FieldValue) (f : Fault) : Value :=
  .object [("requestId".toList, .string id.text), ("error".toList, .string f.message)]

/-- The answer to a request that is admitted. -/
def echo (id : FieldValue) (a : Admitted) (head : Head) (body : Bytes) : Value :=
  let query := head.target.query.map fun q => ("query".toList, Value.string q)
  .object ([
    ("requestId".toList, .string id.text),
    ("partnerId".toList, .string a.partner),
    ("keyId".toList, .string (a.credentials.key.getD [])),
    ("method".toList, .string head.method.text),
    ("path".toList, .string head.target.path)] ++ query.toList ++
    [("body".toList, .string (Utf8.decodeLossy body))])

/-- The application, for a request that was given the identifier. -/
def application (id : FieldValue) : Application Unit := fun head => do
  if isHealthCheck head then return (.ok (response ⟨200⟩ none health), ())
  match ← Ask.rest.once with
  | .error m => return (.error (.other m), ())
  | .ok body =>
    match ← Ask.admitted.once with
    | .error f => return (.ok (response f.status (some id) (refusal id f)), ())
    | .ok a => return (.ok (response ⟨200⟩ (some id) (echo id a head body)), ())

end Countersign.Serving.Echo
