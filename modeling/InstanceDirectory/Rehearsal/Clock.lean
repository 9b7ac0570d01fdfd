import InstanceDirectory.Binary64
import InstanceDirectory.Context

/-!
# The clock of a rehearsal

The clock counts seconds in floating-point numbers, and every moment that is read off it or
set on it is one of those.  As long as moments lie within some million years, everything
that is a multiple of a sixty-fourth of a second is kept exactly.
-/

namespace InstanceDirectory

/-- The integer nearest to a finite number; a tie goes to the even neighbour. -/
def Binary64.nearestInt (number : Binary64) : Int :=
  let magnitude := roundHalfEven number.numerator number.denominator
  if number.negative then -(magnitude : Int) else magnitude

namespace Rehearsal
namespace Clock

/-- Microseconds as a number of seconds. -/
def seconds (microseconds : Int) : Binary64 :=
  .ofRatio (microseconds < 0) microseconds.natAbs 1000000

/-- A number of seconds as microseconds. -/
def microseconds (seconds : Binary64) : Int :=
  let magnitude := Binary64.roundHalfEven (seconds.numerator * 1000000) seconds.denominator
  if seconds.negative then -(magnitude : Int) else magnitude

/-- The moment nearest to a given one that the clock can tell. -/
def nearest (moment : Instant) : Instant :=
  microseconds (seconds moment)

/-- The span from now to the moment that the clock tells for the end of a given span. -/
def span (now : Instant) (span : Duration) : Duration :=
  nearest (now + span) - now

/-- A span in whole microseconds, counted from its number of seconds. -/
def told (span : Duration) : Except Failure Int :=
  let length := seconds span
  let scaled := Binary64.ofRatio length.negative (length.numerator * 1000000) length.denominator
  if scaled.isFinite then .ok scaled.nearestInt else .error .infinite

end Clock
end Rehearsal
end InstanceDirectory
