import Countersign.Keys.Ring

/-!
# Keys in a comma list

Entries `partner.key=secret` with commas between them. Blanks around an entry, a
name or a secret do not belong to it, and blank entries are passed over. The
secret is everything behind the first `=`. The first entry that is not of this
form decides the answer, and the answer never shows a secret.
-/

namespace Countersign.KeyRing

/-- Read one entry. -/
def commaEntry (entry : Text) : Except KeyFault (KeyName × Bytes) :=
  match Text.cut (· == '=') entry with
  | none => .error (.invalidEntry "entry without '='".toList)
  | some (name, secret) =>
    match KeyName.ofText? (Text.trim name) with
    | none => .error (.invalidEntry (Text.trim name))
    | some n => .ok (n, Utf8.encode (Text.trim secret))

/-- Read a comma list of keys. There has to be one entry at least. -/
def ofCommaList (t : Text) : Except KeyFault KeyRing :=
  match (Text.commaPieces t).mapM commaEntry with
  | .error f => .error f
  | .ok [] => .error (.noKeys "key list".toList)
  | .ok es => .ok (ofList es)

end Countersign.KeyRing
