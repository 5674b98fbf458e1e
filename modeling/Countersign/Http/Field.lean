import Countersign.Text.Utf8

/-!
# Header fields

A field of an HTTP message is a name and a value. A **name** is a token, and since
names are compared without regard to ASCII case they are kept in lower case; a
**value** is a string of bytes none of which is a control other than the tab.
`Countersign.Http.Fields` is the ordered collection of the fields of a message, in
which a name can occur several times.

A name asked for need not be a token: `Countersign.Http.Fields.values` then finds
nothing, because no field has such a name.
-/

namespace Countersign.Http

/-- The characters of a token. -/
def isTokenChar (c : Char) : Bool :=
  c.isAlphanum || "!#$%&'*+-.^_`|~".toList.contains c

/-- A non-empty string of token characters. -/
def IsToken (t : Text) : Prop := t ≠ [] ∧ ∀ c ∈ t, isTokenChar c = true

instance (t : Text) : Decidable (IsToken t) :=
  decidable_of_iff (t ≠ [] ∧ t.all isTokenChar = true) (by simp [IsToken])

/-- The name of a header field: a token in lower case. -/
@[ext]
structure FieldName where
  text : Text
  isToken : IsToken text
  lower_text : Text.lower text = text

instance : DecidableEq FieldName := fun a b =>
  decidable_of_iff (a.text = b.text) (by cases a; cases b; simp)

/-- The field name a text stands for, whatever its case. -/
def FieldName.ofText? (t : Text) : Option FieldName :=
  if h : IsToken (Text.lower t) ∧ Text.lower (Text.lower t) = Text.lower t then
    some ⟨Text.lower t, h.1, h.2⟩
  else none

/-- The name of the field that gives the media type of a body. -/
def FieldName.contentType : FieldName := ⟨"content-type".toList, by decide, by decide⟩

/-- The bytes a field value can have: no control other than the tab. -/
def isValueByte (b : UInt8) : Bool := (0x20 ≤ b && b ≠ 0x7F) || b == 0x09

/-- The value of a header field. -/
structure FieldValue where
  bytes : Bytes
  isValue : ∀ b ∈ bytes, isValueByte b = true

instance : DecidableEq FieldValue := fun a b =>
  decidable_of_iff (a.bytes = b.bytes) (by cases a; cases b; simp)

namespace FieldValue

/-- The value with the given bytes, if each of them is allowed. -/
def ofBytes? (b : Bytes) : Option FieldValue :=
  if h : b.all isValueByte = true then some ⟨b, List.all_eq_true.1 h⟩ else none

/-- The value with the UTF-8 bytes of a text, if each of them is allowed. -/
def ofText? (t : Text) : Option FieldValue := ofBytes? (Utf8.encode t)

/-- The text of a value, U+FFFD standing for what is not well-formed UTF-8. -/
def text (v : FieldValue) : Text := Utf8.decodeLossy v.bytes

/-- The text of a value that consists of visible ASCII characters, spaces and tabs. -/
def visible? (v : FieldValue) : Option Text :=
  if v.bytes.all fun b => (0x20 ≤ b && b < 0x7F) || b == 0x09 then
    some (v.bytes.map fun b => Char.ofNat b.toNat)
  else none

end FieldValue

/-- The fields of a message, in order. -/
abbrev Fields := List (FieldName × FieldValue)

namespace Fields

/-- The values of the fields with a name, in order. -/
def values (fs : Fields) (name : Text) : List FieldValue :=
  fs.filterMap fun (n, v) => if n.text = Text.lower name then some v else none

/-- Whether some field has the name. -/
def has (fs : Fields) (name : Text) : Bool := !(fs.values name).isEmpty

/-- Take away every field with a name. -/
def remove (fs : Fields) (name : FieldName) : Fields := fs.filter fun (n, _) => n ≠ name

/-- Make a value the only one of its name. -/
def set (fs : Fields) (name : FieldName) (value : FieldValue) : Fields :=
  fs.remove name ++ [(name, value)]

/-- Add a field behind the others. -/
def append (fs : Fields) (name : FieldName) (value : FieldValue) : Fields :=
  fs ++ [(name, value)]

/-- Fields of two messages together; a name of the second replaces its fields in the first. -/
def override (fs gs : Fields) : Fields :=
  fs.filter (fun (n, _) => gs.all fun (m, _) => m ≠ n) ++ gs

/-! ### The values under a name -/

theorem values_append (fs : Fields) (n : FieldName) (v : FieldValue) (name : Text) :
    (fs.append n v).values name =
      fs.values name ++ if n.text = Text.lower name then [v] else [] := by
  by_cases h : n.text = Text.lower name <;> simp [append, values, List.filterMap_append, h]

theorem values_remove (fs : Fields) (n : FieldName) (name : Text) :
    (fs.remove n).values name = if n.text = Text.lower name then [] else fs.values name := by
  induction fs with
  | nil => simp [remove, values]
  | cons f fs ih =>
    obtain ⟨m, v⟩ := f
    by_cases hm : m = n
    · subst hm
      have keep : remove ((m, v) :: fs) m = remove fs m := by simp [remove]
      rw [keep, ih]
      by_cases h : m.text = Text.lower name <;> simp [values, h]
    · have keep : remove ((m, v) :: fs) n = (m, v) :: remove fs n := by simp [remove, hm]
      have split (gs : Fields) : values ((m, v) :: gs) name =
          (if m.text = Text.lower name then [v] else []) ++ values gs name := by
        by_cases h : m.text = Text.lower name <;> simp [values, h]
      rw [keep, split, ih, split]
      by_cases h : n.text = Text.lower name
      · have hne : m.text ≠ Text.lower name := fun h' => hm (FieldName.ext (h'.trans h.symm))
        simp [h, hne]
      · simp [h]

theorem values_set (fs : Fields) (n : FieldName) (v : FieldValue) (name : Text) :
    (fs.set n v).values name = if n.text = Text.lower name then [v] else fs.values name := by
  rw [set, ← append, values_append, values_remove]
  split <;> simp

end Fields

end Countersign.Http
