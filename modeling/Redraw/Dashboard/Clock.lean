import Redraw.Decimal.Magnitude

/-!
# The clock of a dashboard

The clock counts milliseconds from an origin and is set by hand. The wall clock is the epoch of the
origin, in whole milliseconds, plus the whole part of the count.
-/

namespace Redraw

/-- The time since the origin, and when the origin was. -/
structure Clock where
  epoch : Int64
  now : Float := 0

namespace Clock

/-- The wall clock in milliseconds. -/
def wall (c : Clock) : Int64 := c.epoch + Int64.ofInt (Decimal.wholePart c.now)

/-- Sets the time since the origin. -/
def set (c : Clock) (time : Float) : Clock := { c with now := time }

/-- Lets time pass. -/
def advance (c : Clock) (time : Float) : Clock := { c with now := c.now + time }

end Clock

end Redraw
