import Countersign.Json.Reader
import Countersign.Json.Writer
import Countersign.Settings

/-!
# Settings as JSON

Settings are written as an object with one member for each of them – the keys
excepted, which are secret – and read from such an object, in which the keys can
stand too. Members of other names are passed over; a member that occurs twice or,
the keys excepted, not at all is a mismatch. An array of all seven values in order
is read as well.
-/

namespace Countersign.Settings

open Json

/-- The settings as a JSON object. -/
def toJson (s : Settings) : Value :=
  .object [
    ("gatewayListen".toList, .string s.gatewayListen),
    ("logLevel".toList, .string s.logLevel),
    ("validityWindowSecs".toList, .number s.validityWindow.toNat),
    ("signedResponseHeaders".toList, .array (s.signedResponseNames.map .string)),
    ("keyProvider".toList, .string s.keySource),
    ("keysFile".toList, .string s.keysFile)]

/-- The settings that have been read so far. -/
structure Draft where
  gatewayListen : Option Text
  logLevel : Option Text
  validityWindow : Option UInt64
  signedResponseNames : Option (List Text)
  keySource : Option Text
  keysFile : Option Text
  keys : Option (Option Text)

/-- A draft in which nothing has been read. -/
def Draft.empty : Draft := ⟨none, none, none, none, none, none, none⟩

/-- Refuse a member that has been read before. -/
def once {α : Type} (before : Option α) : Reader Unit := do
  if before.isSome then throw .mismatched
  colon

/-- Read the value of one member. -/
def Draft.member (name : Text) (d : Draft) : Reader Draft := do
  if name = "gatewayListen".toList then
    once d.gatewayListen
    return { d with gatewayListen := some (← string) }
  else if name = "logLevel".toList then
    once d.logLevel
    return { d with logLevel := some (← string) }
  else if name = "validityWindowSecs".toList then
    once d.validityWindow
    return { d with validityWindow := some (← natural) }
  else if name = "signedResponseHeaders".toList then
    once d.signedResponseNames
    return { d with signedResponseNames := some (← array string) }
  else if name = "keyProvider".toList then
    once d.keySource
    return { d with keySource := some (← string) }
  else if name = "keysFile".toList then
    once d.keysFile
    return { d with keysFile := some (← string) }
  else if name = "keys".toList then
    once d.keys
    return { d with keys := some (← string?) }
  else
    colon
    fun t => (skipValue t).map fun r => (d, r)

/-- The settings of a draft in which all but the keys have been read. -/
def Draft.settings? (d : Draft) : Option Settings := do
  return {
    gatewayListen := ← d.gatewayListen
    logLevel := ← d.logLevel
    validityWindow := ← d.validityWindow
    signedResponseNames := ← d.signedResponseNames
    keySource := ← d.keySource
    keysFile := ← d.keysFile
    keys := d.keys.getD none }

/-- Go on to the next item of an array of fixed length; its end is a mismatch. -/
def nextItem (isFirst : Bool) : Reader Unit := fun t =>
  match skipBlanks t with
  | [] => .error .cutShort
  | ']' :: _ => .error .mismatched
  | c :: r =>
    if isFirst then .ok ((), c :: r)
    else if c = ',' then
      match skipBlanks r with
      | [] => .error .cutShort
      | ']' :: _ => .error .malformed
      | r => .ok ((), r)
    else .error .malformed

/-- Close an array of fixed length. -/
def closeItems : Reader Unit := fun t =>
  match skipBlanks t with
  | ']' :: r => .ok ((), r)
  | [] => .error .cutShort
  | _ => .error .malformed

/-- Read the seven settings in order. -/
def items : Reader Settings := do
  nextItem true
  let gatewayListen ← string
  nextItem false
  let logLevel ← string
  nextItem false
  let validityWindow ← natural
  nextItem false
  let signedResponseNames ← array string
  nextItem false
  let keySource ← string
  nextItem false
  let keysFile ← string
  nextItem false
  let keys ← string?
  closeItems
  return { gatewayListen, logLevel, validityWindow, signedResponseNames, keySource, keysFile, keys }

/-- Read settings as an object, or as an array. -/
def reader : Reader Settings := fun t =>
  match skipBlanks t with
  | '\x7b' :: r =>
    match membersRest Draft.member (r.length + 1) false Draft.empty r with
    | .error f => .error f
    | .ok (d, r) =>
      match d.settings? with
      | some s => .ok (s, r)
      | none => .error .mismatched
  | '[' :: r => items r
  | t => .error (mismatch t)

/-- Read a text that holds settings and nothing else. -/
def ofJson (t : Text) : Except Misfit Settings := whole reader t

end Countersign.Settings
