import Countersign.Json.DoublePrecision
import Countersign.Text.Cut
import Countersign.Text.Utf8

/-!
# Reading JSON of a known shape

The reader goes through the text once, from left to right, and knows at every
place what it wants there: a string, a natural number, a list of strings, an object
with known members. The first thing that is not as wanted decides the answer, and
there are three ways not to be as wanted: the text is *malformed* as JSON, it is
*cut short*, or it is well-formed and something *else* – another type, a missing
or repeated member.

A value that nobody wants is still read through, with the leniency its readers can
afford: only its form counts, so an escaped half of a surrogate pair and a number
of any size will do.
-/

namespace Countersign.Json

/-- How a text is not as wanted. -/
inductive Misfit where
  /-- It is no JSON. -/
  | malformed
  /-- It ends too early. -/
  | cutShort
  /-- It is JSON of another shape. -/
  | mismatched
deriving DecidableEq

/-- Read something from the front of a text. -/
abbrev Reader := StateT Text (Except Misfit)

/-- Pass over blanks. -/
def skipBlanks (t : Text) : Text :=
  t.dropWhile fun c => c == ' ' || c == '\n' || c == '\t' || c == '\r'

/-! ### Strings -/

/-- The number that four hexadecimal digits denote. -/
def hexUnit? (a b c d : Char) : Option Nat :=
  [a, b, c, d].foldlM (fun n x =>
    if x.isDigit then some (16 * n + (x.toNat - '0'.toNat))
    else if 'a' ≤ x ∧ x ≤ 'f' then some (16 * n + (x.toNat - 'a'.toNat + 10))
    else if 'A' ≤ x ∧ x ≤ 'F' then some (16 * n + (x.toNat - 'A'.toNat + 10))
    else none) 0

/-- The character that a letter stands for behind a backslash. -/
def unescape? : Char → Option Char
  | '"' => some '"'
  | '\\' => some '\\'
  | '/' => some '/'
  | 'b' => some '\x08'
  | 'f' => some '\x0c'
  | 'n' => some '\n'
  | 'r' => some '\r'
  | 't' => some '\t'
  | _ => none

/-- A text that holds no four hexadecimal digits: it ends too early, or is malformed. -/
def noUnit (t : Text) : Misfit := if (Utf8.encode t).length < 4 then .cutShort else .malformed

/-- A text that does not begin with the escape of the second half of a pair. -/
def noSecondHalf : Text → Misfit
  | [] => .cutShort
  | ['\\'] => .cutShort
  | '\\' :: 'u' :: r => noUnit r
  | _ => .malformed

/-- The rest of a string whose quote has been read. -/
def stringRest : Text → Except Misfit (Text × Text)
  | [] => .error .cutShort
  | '"' :: r => .ok ([], r)
  | '\\' :: 'u' :: a :: b :: c :: d :: r =>
    match hexUnit? a b c d with
    | none => .error .malformed
    | some n =>
      if 0xDC00 ≤ n ∧ n ≤ 0xDFFF then .error .malformed
      else if 0xD800 ≤ n ∧ n ≤ 0xDBFF then
        match r with
        | '\\' :: 'u' :: e :: f :: g :: h :: r' =>
          match hexUnit? e f g h with
          | none => .error .malformed
          | some m =>
            if 0xDC00 ≤ m ∧ m ≤ 0xDFFF then
              let c := Char.ofNat (0x10000 + (n - 0xD800) * 0x400 + (m - 0xDC00))
              (stringRest r').map fun (s, rest) => (c :: s, rest)
            else .error .malformed
        | r => .error (noSecondHalf r)
      else (stringRest r).map fun (s, rest) => (Char.ofNat n :: s, rest)
  | '\\' :: 'u' :: r => .error (noUnit r)
  | ['\\'] => .error .cutShort
  | '\\' :: e :: r =>
    match unescape? e with
    | some c => (stringRest r).map fun (s, rest) => (c :: s, rest)
    | none => .error .malformed
  | c :: r =>
    if c.toNat < 0x20 then .error .malformed
    else (stringRest r).map fun (s, rest) => (c :: s, rest)

/-- Pass over the rest of a string whose quote has been read. -/
def skipString : Text → Except Misfit Text
  | [] => .error .cutShort
  | '"' :: r => .ok r
  | '\\' :: 'u' :: a :: b :: c :: d :: r =>
    if (hexUnit? a b c d).isSome then skipString r else .error .malformed
  | '\\' :: 'u' :: r => .error (noUnit r)
  | ['\\'] => .error .cutShort
  | '\\' :: e :: r => if (unescape? e).isSome then skipString r else .error .malformed
  | c :: r => if c.toNat < 0x20 then .error .malformed else skipString r

/-- Pass over the rest of a word. -/
def skipWord : Text → Text → Except Misfit Text
  | [], t => .ok t
  | _ :: _, [] => .error .cutShort
  | w :: ws, c :: r => if w = c then skipWord ws r else .error .malformed

/-! ### Numbers -/

/-- The parts of a number: a sign, whole digits, digits behind the point, an exponent. -/
structure Numeral where
  negative : Bool
  whole : Text
  fraction : Option Text
  exponent : Option Int

/-- The number that digits denote. -/
def digitsValue (ds : Text) : Nat := Nat.ofDigitChars 10 ds 0

/-- Read a number, `atEnd` being the answer where the text ends inside it. -/
def numeral (atEnd : Misfit) (t : Text) : Except Misfit (Numeral × Text) := do
  let (negative, t) := match t with
    | '-' :: r => (true, r)
    | t => (false, t)
  let digits (t : Text) : Except Misfit (Text × Text) :=
    match t.takeWhile Char.isDigit with
    | [] => .error (if t.isEmpty then atEnd else .malformed)
    | ds => .ok (ds, t.drop ds.length)
  let (whole, t) ← digits t
  if whole.length > 1 ∧ whole.head? = some '0' then throw .malformed
  let (fraction, t) ← match t with
    | '.' :: r => do
      let (ds, r) ← digits r
      pure (some ds, r)
    | t => pure (none, t)
  let (exponent, t) ← match t with
    | e :: r =>
      if e = 'e' ∨ e = 'E' then do
        let (negative, r) := match r with
          | '-' :: r => (true, r)
          | '+' :: r => (false, r)
          | r => (false, r)
        let (ds, r) ← digits r
        let n : Int := digitsValue ds
        pure (some (if negative then -n else n), r)
      else pure (none, t)
    | [] => pure (none, t)
  return (⟨negative, whole, fraction, exponent⟩, t)

/-- Whether double precision has no room for a number. Its significand takes whole digits first,
and those left over count as zeros; then it takes digits behind the point, and those left over do
not count. -/
def Numeral.isTooLarge (n : Numeral) : Bool :=
  let fraction := n.fraction.getD []
  let (whole, zeros) := DoublePrecision.absorb 0 n.whole
  let (significand, ignored) := DoublePrecision.absorb whole fraction
  let places := fraction.length - ignored.length
  DoublePrecision.overflows significand (n.exponent.getD 0 + zeros.length - places)

/-- The unsigned 64-bit number that a number is, if it is written without point and exponent. -/
def Numeral.natural? (n : Numeral) : Option UInt64 :=
  if n.negative ∨ n.fraction.isSome ∨ n.exponent.isSome then none
  else if digitsValue n.whole < UInt64.size then some (UInt64.ofNat (digitsValue n.whole)) else none

/-- Read a number that is wanted, or at least looked at. -/
def number (t : Text) : Except Misfit (Numeral × Text) := do
  let (n, r) ← numeral .cutShort t
  if n.isTooLarge then throw .malformed
  return (n, r)

/-! ### Values that are not wanted -/

/-- The answer where another value was wanted: the value in front has to be well-formed as
far as it has to be looked at to see what it is. -/
def mismatch (t : Text) : Misfit :=
  let found : Except Misfit Unit := match t with
    | [] => .error .cutShort
    | 'n' :: r => (skipWord "ull".toList r).map fun _ => ()
    | 't' :: r => (skipWord "rue".toList r).map fun _ => ()
    | 'f' :: r => (skipWord "alse".toList r).map fun _ => ()
    | '"' :: r => (stringRest r).map fun _ => ()
    | '[' :: _ => .ok ()
    | '\x7b' :: _ => .ok ()
    | c :: r =>
      if c = '-' ∨ c.isDigit then (number (c :: r)).map fun _ => () else .error .malformed
  match found with
  | .error f => f
  | .ok () => .mismatched

/-- Pass over a value that begins with neither kind of bracket. -/
def skipScalar : Text → Except Misfit Text
  | [] => .error .cutShort
  | 'n' :: r => skipWord "ull".toList r
  | 't' :: r => skipWord "rue".toList r
  | 'f' :: r => skipWord "alse".toList r
  | '"' :: r => skipString r
  | c :: r =>
    if c = '-' ∨ c.isDigit then (numeral .malformed (c :: r)).map Prod.snd else .error .malformed

/-- Where the skipper stands inside nested brackets. -/
inductive Place where
  /-- In front of a value. -/
  | value
  /-- In front of the first item or of a closing bracket. -/
  | first
  /-- Behind an item. -/
  | behind

/-- Pass over a value that stands inside the given open brackets, the innermost first, and over
what is left of the brackets. Every step but those from `first` to `value` takes something off
the text, so twice its length bounds the number of steps. -/
def skipNested : Nat → Place → List Char → Text → Except Misfit Text
  | 0, _, _, _ => .error .malformed
  | steps + 1, .value, opened, t => do
    match skipBlanks t with
    | '[' :: r => skipNested steps .first ('[' :: opened) r
    | '\x7b' :: r => skipNested steps .first ('\x7b' :: opened) r
    | t => do
      let r ← skipScalar t
      if opened.isEmpty then return r else skipNested steps .behind opened r
  | steps + 1, place, opened, t =>
    match opened, skipBlanks t with
    | [], t => .ok t
    | _ :: _, [] => .error .cutShort
    | bracket :: outer, c :: r =>
      let closes := (bracket = '[' ∧ c = ']') ∨ (bracket = '\x7b' ∧ c = '\x7d')
      if closes then
        if outer.isEmpty then .ok r else skipNested steps .behind outer r
      else
        let continued : Except Misfit Text := match place with
          | .behind => if c = ',' then .ok r else .error .malformed
          | _ => .ok (c :: r)
        match continued with
        | .error f => .error f
        | .ok t =>
          if bracket = '[' then skipNested steps .value opened t
          else
            match skipBlanks t with
            | '"' :: r =>
              match skipString r with
              | .error f => .error f
              | .ok r =>
                match skipBlanks r with
                | ':' :: r => skipNested steps .value opened r
                | [] => .error .cutShort
                | _ => .error .malformed
            | [] => .error .cutShort
            | _ => .error .malformed

/-- Pass over a value. -/
def skipValue (t : Text) : Except Misfit Text := skipNested (2 * t.length + 2) .value [] t

/-! ### Wanted values -/

/-- Read a string. -/
def string : Reader Text := fun t =>
  match skipBlanks t with
  | '"' :: r => stringRest r
  | t => .error (mismatch t)

/-- Read a string or `null`. -/
def string? : Reader (Option Text) := fun t =>
  match skipBlanks t with
  | 'n' :: r => (skipWord "ull".toList r).map fun r => (none, r)
  | t => (string t).map fun (s, r) => (some s, r)

/-- Read an unsigned 64-bit number. -/
def natural : Reader UInt64 := fun t =>
  match skipBlanks t with
  | [] => .error .cutShort
  | c :: r =>
    if c = '-' ∨ c.isDigit then
      match number (c :: r) with
      | .error f => .error f
      | .ok (n, r) =>
        match n.natural? with
        | some v => .ok (v, r)
        | none => .error .mismatched
    else .error (mismatch (c :: r))

/-- Read the items of an array whose bracket has been read, with at most `n` items. The first
part of the state says whether an item has been read. -/
def itemsRest {α : Type} (item : Reader α) : Nat → Bool → Reader (List α)
  | 0, _, _ => .error .malformed
  | n + 1, some?, t =>
    match skipBlanks t with
    | [] => .error .cutShort
    | ']' :: r => .ok ([], r)
    | c :: r =>
      let begins : Except Misfit Text :=
        if some? then
          if c = ',' then
            match skipBlanks r with
            | [] => .error .cutShort
            | ']' :: _ => .error .malformed
            | r => .ok r
          else .error .malformed
        else .ok (c :: r)
      match begins with
      | .error f => .error f
      | .ok t => (do
          let x ← item
          let xs ← itemsRest item n true
          return x :: xs : Reader (List α)) t

/-- Read an array whose items all have the same shape. -/
def array {α : Type} (item : Reader α) : Reader (List α) := fun t =>
  match skipBlanks t with
  | '[' :: r => itemsRest item (r.length + 1) false r
  | t => .error (mismatch t)

/-- Read the members of an object whose bracket has been read, with at most `n` members: `member`
reads the value of a member with a given name, and adds it to what has been read before. -/
def membersRest {σ : Type} (member : Text → σ → Reader σ) : Nat → Bool → σ → Reader σ
  | 0, _, _, _ => .error .malformed
  | n + 1, some?, s, t =>
    match skipBlanks t with
    | [] => .error .cutShort
    | '\x7d' :: r => .ok (s, r)
    | c :: r =>
      let begins : Except Misfit Text :=
        if some? then
          if c = ',' then
            match skipBlanks r with
            | [] => .error .cutShort
            | r => .ok r
          else .error .malformed
        else .ok (c :: r)
      match begins with
      | .error f => .error f
      | .ok ('"' :: r) => (do
          let name ← (fun t => stringRest t : Reader Text)
          let s ← member name s
          membersRest member n true s : Reader σ) r
      | .ok _ => .error .malformed

/-- Pass over the colon in front of the value of a member. -/
def colon : Reader Unit := fun t =>
  match skipBlanks t with
  | ':' :: r => .ok ((), r)
  | [] => .error .cutShort
  | _ => .error .malformed

/-- Read a text that holds one value and nothing else. -/
def whole {α : Type} (reader : Reader α) (t : Text) : Except Misfit α :=
  match reader t with
  | .error f => .error f
  | .ok (a, r) => if (skipBlanks r).isEmpty then .ok a else .error .malformed

end Countersign.Json
