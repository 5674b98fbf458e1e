import Countersign.Keys.Ring

/-!
# Keys in a properties text

Lines `name=value` or `name:value`. A line whose name begins with
`partnerauth.keys.` defines the key the rest of the name stands for, except that
`partnerauth.keys.default` names the default key. Blank lines, lines that begin
with `#` or `!`, lines without a separator and lines of other names are passed
over. Without a default line the least key is the default, so a ring that is read
this way always has one.

The first line with a bad key name decides the answer. Only then is it asked
whether the default is one of the keys, wherever in the text the key is defined.
-/

namespace Countersign

/-- A key ring with a default key. -/
structure KeyBook where
  ring : KeyRing
  default : KeyName

namespace KeyBook

/-- What a line of a properties text says. -/
inductive Entry where
  | key (name : KeyName) (secret : Bytes)
  | default (name : KeyName)

/-- How the names of key lines begin. -/
def keyPrefix : Text := "partnerauth.keys.".toList

/-- The name of the line that names the default key. -/
def defaultName : Text := "partnerauth.keys.default".toList

/-- Read one line, which has been trimmed; `none` if it is passed over. -/
def entry? (line : Text) : Except KeyFault (Option Entry) :=
  match line with
  | [] | '#' :: _ | '!' :: _ => .ok none
  | _ =>
    match Text.cut (fun c => c == '=' || c == ':') line with
    | none => .ok none
    | some (name, value) =>
      let name := Text.trim name
      if name = defaultName then
        match KeyName.ofText? (Text.trim value) with
        | some n => .ok (some (.default n))
        | none => .error (.invalidEntry line)
      else if keyPrefix.isPrefixOf name then
        match KeyName.ofText? (name.drop keyPrefix.length) with
        | some n => .ok (some (.key n (Utf8.encode (Text.trim value))))
        | none => .error (.invalidEntry name)
      else .ok none

/-- The entries of a text in order. -/
def entries (t : Text) : Except KeyFault (List Entry) :=
  (((t.splitOn '\n').map Text.trim).mapM entry?).map fun es => es.filterMap id

/-- The keys that entries define. -/
def ringOf (es : List Entry) : KeyRing :=
  KeyRing.ofList (es.filterMap fun
    | .key n s => some (n, s)
    | .default _ => none)

/-- The default that entries name; the last one counts. -/
def namedDefault? (es : List Entry) : Option KeyName :=
  (es.filterMap fun
    | .key _ _ => none
    | .default n => some n).getLast?

/-- Read a properties text. -/
def ofProperties (t : Text) : Except KeyFault KeyBook := do
  let es ← entries t
  let ring := ringOf es
  match namedDefault? es with
  | some n => if (ring.find? n).isSome then .ok ⟨ring, n⟩ else .error (.unknownDefault n)
  | none =>
    match ring.least? with
    | some n => .ok ⟨ring, n⟩
    | none => .error (.noKeys "`partnerauth.keys.*` entries".toList)

/-- The description of a ring with a default. -/
def describe (b : KeyBook) : Text :=
  "PropertiesKeyProvider \x7b keys: ".toList ++ b.ring.describeNames ++ ", default_key: ".toList ++
    KeyRing.describeName b.default ++ " \x7d".toList

end KeyBook

end Countersign
