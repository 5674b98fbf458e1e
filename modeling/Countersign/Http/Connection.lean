import Countersign.Http.Message

/-!
# Messages on a connection

What is left of a message when it has crossed an HTTP/1.1 connection. The frames of
a body become its bytes, and trailers are lost; spaces and tabs at the ends of a
field value are not part of it. A request says how long its body is, unless the body
is empty, and its body is as long as it says. A response has no body if its status or
the method of the request rules one out.
-/

namespace Countersign.Http

/-- Spaces and tabs. -/
def isPadding (b : UInt8) : Bool := b == 0x20 || b == 0x09

/-- A value without the spaces and tabs at its two ends. -/
def FieldValue.unpadded (v : FieldValue) : FieldValue where
  bytes := ((v.bytes.dropWhile isPadding).reverse.dropWhile isPadding).reverse
  isValue b hb := v.isValue b <|
    (List.dropWhile_suffix _).subset <| List.mem_reverse.1 <|
      (List.dropWhile_suffix _).subset <| List.mem_reverse.1 hb

/-- The fields of a message without the padding of their values. -/
def Fields.unpadded (fs : Fields) : Fields := fs.map fun (n, v) => (n, v.unpadded)

/-- The frames in which the bytes of a body arrive. -/
def Body.arriving (b : Bytes) : Body := if b = [] then [] else .ofBytes b

/-- The name of the field that gives the length of a body. -/
def FieldName.contentLength : FieldName := ⟨"content-length".toList, by decide, by decide⟩

/-- The length that the fields of a message state. -/
def Fields.statedLength? (fs : Fields) : Option Nat :=
  (fs.values FieldName.contentLength.text).head?.bind fun v => v.visible?.bind Decimal.nat?

/-- A request as it arrives. A length that it states ends its body there; where it states none,
the length of the body is stated for it if there is anything in the body. -/
def Request.arriving (r : Request) : Request :=
  let fields := r.fields.unpadded
  let bytes := r.body.bytes
  match fields.statedLength? with
  | some n => { r with fields := fields, body := .arriving (bytes.take n) }
  | none =>
    let length := if bytes = [] then none else FieldValue.ofText? (Nat.toDigits 10 bytes.length)
    { r with
      fields := (length.map (fields.set FieldName.contentLength)).getD fields
      body := .arriving bytes }

/-- Whether the response to a request can have a body. -/
def Status.allowsBody (s : Status) (method : Method) : Bool :=
  method.text ≠ "HEAD".toList && (200 ≤ s.code && s.code ≠ 204 && s.code ≠ 304) &&
    (method.text ≠ "CONNECT".toList || 300 ≤ s.code)

/-- A response as it arrives. -/
def Response.arriving (r : Response) (method : Method) : Response :=
  { r with
    fields := r.fields.unpadded
    body := if r.status.allowsBody method then .arriving r.body.bytes else [] }

end Countersign.Http
