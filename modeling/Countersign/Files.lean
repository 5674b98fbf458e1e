import Countersign.Text.Utf8

/-!
# Files seen from a directory

A collection of files under relative paths, and what reading a path gives. A path
is walked component by component: an empty component and `.` stay, `..` goes up,
and going on from a file is an error. A directory is there when some file is
somewhere below it, and cannot be read. Above the directory itself nothing is
known, except that there are directories.
-/

namespace Countersign

/-- Why a file cannot be read as text. -/
inductive FileFault where
  | notFound
  | notDirectory
  | isDirectory
  | notUtf8
deriving DecidableEq

/-- The wording of a file fault. -/
def FileFault.message : FileFault → Text
  | notFound => "No such file or directory (os error 2)".toList
  | notDirectory => "Not a directory (os error 20)".toList
  | isDirectory => "Is a directory (os error 21)".toList
  | notUtf8 => "stream did not contain valid UTF-8".toList

/-- Files under the components of their paths. -/
structure Files where
  entries : List (List Text × Bytes)

namespace Files

/-- Where walking a path has arrived. -/
inductive Place where
  /-- A directory below the one looked from, the last component first. -/
  | below (components : List Text)
  /-- A directory above the one looked from. -/
  | above
  | file (content : Bytes)

/-- The components of a path that say where to go. -/
def components (path : Text) : List Text :=
  (path.splitOn '/').filter fun c => c ≠ [] ∧ c ≠ ['.']

/-- The collection of files with the given paths. -/
def ofList (files : List (Text × Bytes)) : Files :=
  ⟨files.map fun (path, content) => (components path, content)⟩

/-- Go one component on. -/
def step (files : Files) (place : Place) (component : Text) : Except FileFault Place :=
  match place with
  | .file _ => .error .notDirectory
  | .above => if component = "..".toList then .ok .above else .error .notFound
  | .below here =>
    if component = "..".toList then
      match here with
      | [] => .ok .above
      | _ :: outer => .ok (.below outer)
    else
      let there := (component :: here).reverse
      match files.entries.lookup there with
      | some content => .ok (.file content)
      | none =>
        if files.entries.any fun (path, _) => there.isPrefixOf path then
          .ok (.below (component :: here))
        else .error .notFound

/-- Whether a path can only name a directory. -/
def namesDirectory (path : Text) : Bool :=
  match (path.splitOn '/').getLast? with
  | some last => last = [] ∨ last = ['.'] ∨ last = "..".toList
  | none => true

/-- The bytes of the file at a path. -/
def bytes (files : Files) (path : Text) : Except FileFault Bytes := do
  if path = [] then throw .notFound
  let start := if path.head? = some '/' then Place.above else .below []
  match ← (components path).foldlM files.step start with
  | .file content => if namesDirectory path then throw .notDirectory else return content
  | _ => throw .isDirectory

/-- The text of the file at a path. -/
def text (files : Files) (path : Text) : Except FileFault Text := do
  match Utf8.decode? (← files.bytes path) with
  | some t => return t
  | none => throw .notUtf8

end Files

end Countersign
