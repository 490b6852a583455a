import Bookings.Span
import Bookings.Schedule.Capacities

namespace Bookings

def minutesPerDay : Nat := 1440

structure Schedule where
  weekday : UInt8
  /-- Minutes per timeslot. -/
  duration : UInt32
  capacities : Capacities
deriving DecidableEq

def minutesMs (minutes : UInt32) : Int := minutes.toNat * minuteMs

def slotStart (w : Span) (timeslot duration : UInt32) : Instant :=
  Int64.ofInt (w.start.toInt + timeslot.toNat * minutesMs duration)

namespace Schedule

def validate (s : Schedule) : Except ScheduleError Unit :=
  if s.weekday > 6 then .error (.weekdayOutOfRange s.weekday)
  else if s.duration = 0 then .error .zeroDuration
  else if s.capacities.size * s.duration.toNat > minutesPerDay then
    .error (.overflow s.capacities.size s.duration)
  else .ok ()

def make (weekday : UInt8) (duration : UInt32) (capacities : String) :
    Except ScheduleError Schedule := do
  let s : Schedule := ⟨weekday, duration, ← Capacities.parse capacities⟩
  s.validate
  return s

def timeslots (s : Schedule) : Nat := s.capacities.size

def capacityAt (s : Schedule) (timeslot : UInt32) : Option Nat := s.capacities.at? timeslot

def durationMs (s : Schedule) : Int := minutesMs s.duration

def startOf (s : Schedule) (w : Span) (timeslot : UInt32) : Instant :=
  slotStart w timeslot s.duration

end Schedule

end Bookings
