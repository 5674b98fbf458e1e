import Countersign.Keys.Name
import Countersign.Text.Quoted
import Countersign.Text.Utf8

/-!
# Key rings

A key ring holds secrets under key names, one secret for each name; inserting a
name again replaces its secret. A secret is any byte string, the empty one
included. Descriptions of a ring list names and never secrets.
-/

namespace Countersign

/-- Why a collection of keys cannot be used. -/
inductive KeyFault where
  /-- A key file cannot be read. -/
  | unreadable (path : Text) (reason : Text)
  /-- An entry is not of the form it should have. -/
  | invalidEntry (entry : Text)
  /-- There is not a single key. -/
  | noKeys (source : Text)
  /-- The default key is not one of the keys. -/
  | unknownDefault (name : KeyName)
  /-- There is no source of keys of that name. -/
  | unknownSource (name : Text)
  /-- A source of keys lacks a setting. -/
  | missingSetting (source setting : Text)
deriving DecidableEq

/-- The wording of a key fault. -/
def KeyFault.message : KeyFault → Text
  | unreadable path reason => "failed to read key file ".toList ++ path ++ ": ".toList ++ reason
  | invalidEntry entry => "invalid key entry '".toList ++ entry ++ "'".toList
  | noKeys source => "no keys defined in ".toList ++ source
  | unknownDefault name => "default key ".toList ++ name.text ++ " is not defined".toList
  | unknownSource name => "unknown key provider '".toList ++ name ++ "'".toList
  | missingSetting source setting =>
    "key provider '".toList ++ source ++ "' requires ".toList ++ setting ++ " to be set".toList

/-- A secret for each of some key names, in the order in which the names came first. -/
structure KeyRing where
  entries : List (KeyName × Bytes)
  nodup : (entries.map Prod.fst).Nodup

namespace KeyRing

/-- A ring without keys. -/
def empty : KeyRing := ⟨[], by simp⟩

/-- The names in a ring. -/
def names (r : KeyRing) : List KeyName := r.entries.map Prod.fst

/-- The number of keys. -/
def size (r : KeyRing) : Nat := r.entries.length

/-- The secret of a name. -/
def find? (r : KeyRing) (n : KeyName) : Option Bytes := r.entries.lookup n

/-- The entries with a secret put in: in the place of the one of that name, else at the end. -/
def put (n : KeyName) (secret : Bytes) : List (KeyName × Bytes) → List (KeyName × Bytes)
  | [] => [(n, secret)]
  | (m, s) :: r => if m = n then (n, secret) :: r else (m, s) :: put n secret r

theorem mem_map_put {n m : KeyName} {secret : Bytes} {es : List (KeyName × Bytes)} :
    m ∈ (put n secret es).map Prod.fst ↔ m = n ∨ m ∈ es.map Prod.fst := by
  induction es with
  | nil => simp [put]
  | cons e r ih =>
    obtain ⟨k, s⟩ := e
    by_cases h : k = n
    · subst h
      simp [put]
    · simp only [put, if_neg h, List.map_cons, List.mem_cons, ih]
      grind

theorem nodup_map_put {n : KeyName} {secret : Bytes} {es : List (KeyName × Bytes)}
    (h : (es.map Prod.fst).Nodup) : ((put n secret es).map Prod.fst).Nodup := by
  induction es with
  | nil => simp [put]
  | cons e r ih =>
    obtain ⟨k, s⟩ := e
    simp only [List.map_cons, List.nodup_cons] at h
    by_cases hk : k = n
    · subst hk
      simpa [put] using h
    · simp only [put, if_neg hk, List.map_cons, List.nodup_cons, mem_map_put]
      exact ⟨fun hc => hc.elim hk h.1, ih h.2⟩

theorem lookup_put {n m : KeyName} {secret : Bytes} {es : List (KeyName × Bytes)} :
    (put n secret es).lookup m = if m = n then some secret else es.lookup m := by
  have first (k : KeyName) (s : Bytes) (es : List (KeyName × Bytes)) :
      ((k, s) :: es).lookup m = if m = k then some s else es.lookup m := by
    by_cases h : m = k
    · simp [h]
    · have hb : (m == k) = false := beq_false_of_ne h
      simp [List.lookup_cons, hb, h]
  induction es with
  | nil => exact first n secret []
  | cons e r ih =>
    obtain ⟨k, s⟩ := e
    by_cases hk : k = n
    · subst hk
      simp only [put, first, if_true]
      split <;> rfl
    · simp only [put, if_neg hk, first, ih]
      grind

/-- Put a secret under a name. -/
def insert (r : KeyRing) (n : KeyName) (secret : Bytes) : KeyRing :=
  ⟨put n secret r.entries, nodup_map_put r.nodup⟩

theorem find?_insert (r : KeyRing) (n m : KeyName) (secret : Bytes) :
    (r.insert n secret).find? m = if m = n then some secret else r.find? m := lookup_put

/-- The ring of a list of entries; of several entries of one name the last counts. -/
def ofList (es : List (KeyName × Bytes)) : KeyRing :=
  es.foldl (fun r (n, s) => r.insert n s) empty

theorem find?_ofList (es : List (KeyName × Bytes)) (n : KeyName) :
    (ofList es).find? n = es.reverse.lookup n := by
  have onto (r : KeyRing) : (es.foldl (fun r (n, s) => r.insert n s) r).find? n =
      (es.reverse.lookup n).or (r.find? n) := by
    induction es generalizing r with
    | nil => rfl
    | cons e es ih =>
      obtain ⟨m, s⟩ := e
      rw [List.foldl_cons, ih, find?_insert, List.reverse_cons, List.lookup_append]
      by_cases h : n = m
      · cases es.reverse.lookup n <;> simp [h]
      · have hb : (n == m) = false := beq_false_of_ne h
        cases es.reverse.lookup n <;> simp [List.lookup_cons, hb, h]
  rw [ofList, onto]
  cases es.reverse.lookup n <;> rfl

/-- The names in the order of `KeyName.le`. -/
def sortedNames (r : KeyRing) : List KeyName := r.names.mergeSort KeyName.le

/-- The least name in the ring. -/
def least? (r : KeyRing) : Option KeyName :=
  r.names.foldl (fun
    | none, n => some n
    | some m, n => some (if m.le n then m else n)) none

/-- A key name as descriptions show it. -/
def describeName (n : KeyName) : Text :=
  '(' :: Quoted.encode n.partner ++ ", ".toList ++ Quoted.encode n.key ++ [')']

/-- The names as descriptions show them, in order. -/
def describeNames (r : KeyRing) : Text :=
  '[' :: Text.join ", ".toList (r.sortedNames.map describeName) ++ [']']

/-- The description of a ring given once and for all. -/
def describe (r : KeyRing) : Text :=
  "StaticKeyProvider \x7b keys: ".toList ++ r.describeNames ++ " \x7d".toList

end KeyRing

end Countersign
