/-!
# A clock that is set by hand

The time in seconds since 1970 as a signed 64-bit number. The clock moves only when
it is told to, and a move beyond the range wraps around.
-/

namespace Countersign

/-- A clock that stands still until it is moved. -/
structure Clock where
  now : Int64
deriving DecidableEq

namespace Clock

/-- Move the clock to a time. -/
def set (_ : Clock) (time : Int64) : Clock := ⟨time⟩

/-- Move the clock by some seconds, forward or backward. -/
def advance (c : Clock) (seconds : Int64) : Clock := ⟨c.now + seconds⟩

end Clock

end Countersign
