import Countersign.Text.Cut

/-!
# Names of keys

A key is named by its partner and by its own name among the partner's keys. In
text the two stand around a single point, so neither may be empty or hold one.
Names are ordered by partner first; the order of texts is that of their code
points, which is also the order of their UTF-8 bytes.
-/

namespace Countersign

/-- The name of a key. -/
structure KeyName where
  partner : Text
  key : Text
deriving DecidableEq

namespace KeyName

/-- The text of a key name. -/
def text (n : KeyName) : Text := n.partner ++ '.' :: n.key

/-- Read a key name: two non-empty parts around the only point. -/
def ofText? (t : Text) : Option KeyName :=
  match Text.cut (· == '.') t with
  | some (partner, key) =>
    if partner ≠ [] ∧ key ≠ [] ∧ '.' ∉ key then some ⟨partner, key⟩ else none
  | none => none

/-- Partner first, then key. -/
def le (a b : KeyName) : Bool :=
  ((compare a.partner b.partner).then (compare a.key b.key)).isLE

end KeyName

end Countersign
