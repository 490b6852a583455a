import Bookings.Span

namespace Bookings

/-- A fixed offset from universal time, east positive, of less than a day. -/
structure Zone where
  seconds : Int
  west : -86400 < seconds := by decide
  east : seconds < 86400 := by decide
deriving DecidableEq

namespace Zone

def utc : Zone := ⟨0, by decide, by decide⟩

def ofSeconds? (seconds : Int) : Option Zone :=
  if h : -86400 < seconds ∧ seconds < 86400 then some ⟨seconds, h.1, h.2⟩ else none

def ahead (z : Zone) : Int := z.seconds * 1000

def dayOf (z : Zone) (t : Int) : Int := (t + z.ahead) / dayMs

def midnight (z : Zone) (day : Int) : Int := day * dayMs - z.ahead

end Zone

/-- The calendar runs from the start of the year -262143 to the end of the year 262142. -/
def firstDay : Int := -96465292

def lastDay : Int := 95026236

def dated (day : Int) : Bool := firstDay ≤ day && day ≤ lastDay

def representable (t : Int) : Bool := dated (t / dayMs)

def weekdayOf (day : Int) : Int := (day + 4) % 7

/-- The weekday of an instant; outside the calendar, that of instant 0. -/
def currentWeekday (now : Instant) (zone : Zone) : UInt8 :=
  let t := if representable now.toInt then now.toInt else 0
  UInt8.ofNat (weekdayOf (zone.dayOf t)).toNat

/-- The start and end of a weekday in the week that holds `now`, where the calendar has them. -/
def weekdayBounds (weekday : UInt8) (now : Instant) (zone : Zone) : Option Span :=
  let today := zone.dayOf now.toInt
  let day := today - weekdayOf today + weekday.toNat
  let start := zone.midnight day
  if weekday ≤ 6 && representable now.toInt && dated today && dated day && representable start then
    some ⟨Int64.ofInt start, Int64.ofInt (start + dayMs)⟩
  else none

end Bookings
