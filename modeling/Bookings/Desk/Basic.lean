import Bookings.Week
import Bookings.Desk.Plan
import Bookings.Desk.Rules

namespace Bookings

structure Desk where
  zone : Zone
  now : Instant
deriving DecidableEq

namespace Desk

def today (d : Desk) : UInt8 := currentWeekday d.now d.zone

def window (d : Desk) (weekday : UInt8) : Except BookingError Span := do
  Rules.weekday weekday
  match weekdayBounds weekday d.now d.zone with
  | some w => return w
  | none => .error (.invalidWeekday weekday)

def requireSchedule (queue : Id) (weekday : UInt8) : Action Schedule := do
  match ← Action.call (.scheduleFor queue weekday) with
  | some schedule => return schedule
  | none => Action.fail (.noSchedule queue weekday)

def timeslotCapacity (queue : Id) (weekday : UInt8) (timeslot : UInt32) :
    Action (Schedule × Nat) := do
  let schedule ← requireSchedule queue weekday
  match schedule.capacityAt timeslot with
  | some capacity => return (schedule, capacity)
  | none => Action.fail (.noSuchTimeslot timeslot schedule.timeslots)

/-- Refuses early where the timeslot is full; the store decides again when it inserts. -/
def ensureRoom (queue : Id) (w : Span) (timeslot : UInt32) (capacity : Nat) : Action Unit := do
  let rows ← Action.call (.atTimeslot queue w timeslot)
  if hasRoom (openSeats capacity rows) then return ()
  else Action.fail (.noOpenSlots timeslot capacity)

end Desk

end Bookings
