/-
Moments of the calendar, counted in nanoseconds from the start of 1970.
-/
namespace WebLogin

/-- A moment. -/
structure Timestamp where
  /-- How many nanoseconds have passed since the epoch. -/
  nanoseconds : Int
  deriving DecidableEq, Repr

namespace Timestamp

/-- How many nanoseconds a second has. -/
def nanosPerSecond : Int := 1000000000

/-- How many whole seconds have passed since the epoch. -/
def seconds (t : Timestamp) : Int := t.nanoseconds / nanosPerSecond

/-- The moment so many seconds later. -/
def addSeconds (t : Timestamp) (s : Int) : Timestamp := ⟨t.nanoseconds + s * nanosPerSecond⟩

/-- The first second of the calendar, 1 January of the year -262143. -/
def firstSecond : Int := -8334601228800

/-- The last second of the calendar, in the year 262142. -/
def lastSecond : Int := 8210266876799

/-- Whether the moment has a date in the calendar. -/
def hasDate (t : Timestamp) : Bool := firstSecond ≤ t.seconds && t.seconds ≤ lastSecond

end Timestamp

end WebLogin
