import Countersign.Signature

/-!
# Admission

Whether the credentials of a request admit it: they have to be complete, their time
has to lie within a window around the clock, and their signature has to be that of
the request – in this order. The distance between the two times is computed in words,
which wrap around; it is the one in the integers all the same, from one end of the
range to the other (`Countersign.Serving.toNat_distanceWord`).

Who is admitted is then known as a partner, and can be held to it.
-/

namespace Countersign.Serving

/-- Credentials that have been checked. -/
structure Admitted where
  credentials : Credentials
  partner : Text
deriving DecidableEq

/-- The distance between two times, in seconds. -/
def distance (a b : Int64) : Nat := (a.toInt - b.toInt).natAbs

/-- The distance as a word: the lesser time is taken from the greater one. -/
def distanceWord (a b : Int64) : UInt64 :=
  if a < b then b.toUInt64 - a.toUInt64 else a.toUInt64 - b.toUInt64

/-- Check the credentials of a request. -/
def admission (ring : KeyRing) (window : UInt64) (now : Int64) (c : Credentials)
    (r : Canonical.Request) : Except Fault Admitted :=
  if c.missing ≠ [] then .error (.incomplete c.missing)
  else
    match c.partner, c.timestamp with
    | some partner, some time =>
      if window < distanceWord now time then .error .expired
      else
        match c.check ring (.request r) with
        | .error f => .error f
        | .ok () => .ok ⟨c, partner⟩
    | _, _ => .error .partnerOrTimeUnset

/-- Hold someone admitted to a partner's name. -/
def Admitted.mustBe (a : Admitted) (partner : Text) : Except Fault Unit :=
  if a.partner = partner then .ok () else .error (.wrongPartner partner)

end Countersign.Serving
