import Countersign.Http.Field
import Countersign.Text.Cut

/-!
# Request targets

Where a request goes: an optional origin, a path and an optional query. Nothing in
it is decoded or normalised. The query begins behind the first `?` and may be
empty, which is not the same as being absent; a fragment is not part of a target.

The forms are `/path?query`, `scheme://authority/path?query` – an empty path
stands for `/` there –, the single `*`, and a bare authority, which has the empty
path.
-/

namespace Countersign.Http

/-- The method of a request: a token, in which case matters. -/
structure Method where
  text : Text
  isToken : IsToken text

instance : DecidableEq Method := fun a b =>
  decidable_of_iff (a.text = b.text) (by cases a; cases b; simp)

/-- The method with the given name. -/
def Method.ofText? (t : Text) : Option Method :=
  if h : IsToken t then some ⟨t, h⟩ else none

/-- The target of a request. -/
structure Target where
  /-- Scheme and authority as they are written in front of the path. -/
  origin : Text
  path : Text
  query : Option Text
  path_clean : '?' ∉ path ∧ '\n' ∉ path
  query_clean : '\n' ∉ query.getD []

namespace Target

/-- The target with the given parts, unless one of them holds a character it cannot hold. -/
def ofParts? (origin path : Text) (query : Option Text) : Option Target :=
  if h : ('?' ∉ path ∧ '\n' ∉ path) ∧ '\n' ∉ query.getD [] then
    some ⟨origin, path, query, h.1, h.2⟩
  else none

/-- Path and query of what is left behind the origin. -/
def pathAndQuery (t : Text) : Text × Option Text :=
  match Text.cut (· == '?') t with
  | none => (t, none)
  | some (path, query) => (path, some query)

/-- The part of a text that is in front of the first occurrence of `://`, and the part
behind it. -/
def cutScheme : Text → Option (Text × Text)
  | [] => none
  | ':' :: '/' :: '/' :: r => some ([], r)
  | c :: r => (cutScheme r).map fun (a, b) => (c :: a, b)

/-- A scheme as it is written back: the two common ones in lower case. -/
def writtenScheme (t : Text) : Text :=
  if Text.lower t = "http".toList ∨ Text.lower t = "https".toList then Text.lower t else t

/-- Read a target. -/
def ofText? (t : Text) : Option Target :=
  let t := t.takeWhile (· ≠ '#')
  match t with
  | [] => none
  | ['*'] => ofParts? [] ['*'] none
  | '/' :: _ =>
    let (path, query) := pathAndQuery t
    ofParts? [] path query
  | _ =>
    match cutScheme t with
    | some (scheme, r) =>
      let authority := r.takeWhile fun c => c ≠ '/' ∧ c ≠ '?'
      let (path, query) := pathAndQuery (r.drop authority.length)
      ofParts? (writtenScheme scheme ++ "://".toList ++ authority)
        (if path.isEmpty then ['/'] else path) query
    | none => ofParts? t [] none

/-- The text of a target. -/
def text (t : Target) : Text :=
  t.origin ++ t.path ++ match t.query with
    | none => []
    | some q => '?' :: q

end Target

end Countersign.Http
