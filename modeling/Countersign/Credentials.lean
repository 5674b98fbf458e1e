import Countersign.Text.Cut

/-!
# Credentials

What a signed message says about its own signature: a scheme and up to six named
parameters – who signed, with which key, which header fields are covered, when,
and the signature itself. The same record stands in the `Authorization` field of a
request and in the `X-SignedResponse` field of a response.

Every part is optional here: credentials are filled in step by step by a signer,
and read from text that can lack any of them. `Countersign.Credentials.missing`
lists what a complete record has and this one lacks.
-/

namespace Countersign

/-- The parameters of credentials, in the order in which they are written. -/
inductive Param where
  | partner
  | key
  | signedNames
  | timestamp
  | signature
  | canonicalize
deriving DecidableEq

namespace Param

/-- The name a parameter is written with. -/
def name : Param → Text
  | partner => "partner-id".toList
  | key => "key-id".toList
  | signedNames => "signed-headers".toList
  | timestamp => "timestamp".toList
  | signature => "signature".toList
  | canonicalize => "requires-canonicalize".toList

/-- All parameters in order. -/
def all : List Param := [partner, key, signedNames, timestamp, signature, canonicalize]

/-- The parameter with exactly the given name. -/
def ofName? (t : Text) : Option Param := all.find? fun p => p.name = t

theorem ofName?_name (p : Param) : ofName? p.name = some p := by
  cases p <;> decide

theorem ofName?_eq_some_iff {t : Text} {p : Param} : ofName? t = some p ↔ t = p.name := by
  constructor
  · intro h
    have : p.name = t := by simpa using List.find?_some h
    exact this.symm
  · rintro rfl
    exact ofName?_name p

end Param

/-- What a signed message says about its signature. -/
structure Credentials where
  scheme : Option Text
  /-- Who signed. -/
  partner : Option Text
  /-- Which of the partner's keys signed. -/
  key : Option Text
  /-- The names of the header fields the signature covers. -/
  signedNames : List Text
  /-- When the message was signed, in seconds. -/
  timestamp : Option Int64
  signature : Option Text
  /-- A remark that is carried along and has no effect. -/
  canonicalize : Option Bool
deriving DecidableEq

/-- The parts that complete credentials have. -/
inductive Part where
  | scheme
  | param (p : Param)
deriving DecidableEq

/-- The name of a part. -/
def Part.name : Part → Text
  | scheme => "scheme".toList
  | param p => p.name

namespace Credentials

/-- Credentials in which nothing is set. -/
def empty : Credentials := ⟨none, none, none, [], none, none, none⟩

/-- Credentials that name a partner and a key and nothing else. -/
def forKey (partner key : Text) : Credentials :=
  { empty with partner := some partner, key := some key }

/-- The parts that are not set but have to be, in a fixed order. -/
def missing (c : Credentials) : List Part :=
  [(Part.scheme, c.scheme.isNone), (.param .partner, c.partner.isNone),
    (.param .key, c.key.isNone), (.param .timestamp, c.timestamp.isNone),
    (.param .signature, c.signature.isNone)].filterMap
      fun (part, unset) => if unset then some part else none

theorem missing_eq_nil_iff {c : Credentials} :
    c.missing = [] ↔ c.scheme.isSome ∧ c.partner.isSome ∧ c.key.isSome ∧ c.timestamp.isSome ∧
      c.signature.isSome := by
  cases hs : c.scheme <;> cases hp : c.partner <;> cases hk : c.key <;> cases ht : c.timestamp <;>
    cases hg : c.signature <;> simp [missing, hs, hp, hk, ht, hg]

end Credentials

end Countersign
