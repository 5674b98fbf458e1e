import Countersign.Files
import Countersign.Keys.CommaList
import Countersign.Keys.Properties
import Countersign.Settings

/-!
# Sources of keys

Where a key ring comes from is a setting: the name of a source. A source makes a
ring out of the settings and the files at hand. Two are always there – `properties`
reads the properties file, `env` the comma list –, others can be added, and adding
one under a name that is taken replaces it.
-/

namespace Countersign

/-- Makes a key ring out of settings and files. -/
abbrev KeySource := Settings → Files → Except KeyFault KeyRing

/-- Read a properties file. -/
def KeyBook.ofFile (files : Files) (path : Text) : Except KeyFault KeyBook :=
  match files.text path with
  | .ok t => KeyBook.ofProperties t
  | .error f => .error (.unreadable path f.message)

namespace KeySource

/-- The keys of the properties file. -/
def properties : KeySource := fun s files => (KeyBook.ofFile files s.keysFile).map KeyBook.ring

/-- The keys of the comma list. -/
def commaList : KeySource := fun s _ =>
  match s.keys with
  | some t => KeyRing.ofCommaList t
  | none => .error (.missingSetting "env".toList "PARTNERAUTH_KEYS".toList)

end KeySource

/-- Sources under their names. -/
structure KeySources where
  entries : List (Text × KeySource)

namespace KeySources

/-- No sources. -/
def empty : KeySources := ⟨[]⟩

/-- Put a source under a name. -/
def register (s : KeySources) (name : Text) (source : KeySource) : KeySources :=
  ⟨(name, source) :: s.entries.filter fun e => e.1 ≠ name⟩

/-- The sources that are always there. -/
def standard : KeySources :=
  (empty.register "properties".toList .properties).register "env".toList .commaList

/-- The names of the sources in the order of their code points. -/
def names (s : KeySources) : List Text :=
  (s.entries.map Prod.fst).mergeSort fun a b => (compare a b).isLE

/-- The ring of the source that the settings name. -/
def build (s : KeySources) (settings : Settings) (files : Files) : Except KeyFault KeyRing :=
  match s.entries.lookup settings.keySource with
  | some source => source settings files
  | none => .error (.unknownSource settings.keySource)

end KeySources

end Countersign
