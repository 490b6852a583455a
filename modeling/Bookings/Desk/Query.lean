import Bookings.Desk.Basic

namespace Bookings

structure Availability where
  timeslot : UInt32
  scheduledTime : Instant
  capacity : Nat
  seats : Int
deriving DecidableEq

namespace Desk

def myAppointments (d : Desk) (queue : Id) (weekday : UInt8) (caller : Caller) :
    Action (List Slot) := do
  Action.check (Rules.caller caller)
  let w ← Action.check (d.window weekday)
  Action.call (.claimedBy queue w caller.email)

def appointmentsForDay (d : Desk) (queue : Id) (weekday : UInt8) (caller : Caller) :
    Action (List Slot) := do
  if caller.admin then
    let w ← Action.check (d.window weekday)
    Action.call (.within queue w)
  else d.myAppointments queue weekday caller

def scheduleForDay (queue : Id) (weekday : UInt8) : Action Schedule := do
  Action.check (Rules.weekday weekday)
  requireSchedule queue weekday

def schedules (queue : Id) : Action (List Schedule) := Action.call (.allSchedules queue)

def timeslotAvailability (d : Desk) (queue : Id) (weekday : UInt8) :
    Action (List Availability) := do
  let schedule ← scheduleForDay queue weekday
  let w ← Action.check (d.window weekday)
  let rows ← Action.call (.within queue w)
  return schedule.capacities.toList.map fun (timeslot, capacity) =>
    ⟨timeslot, schedule.startOf w timeslot, capacity,
      openSeats capacity (rows.filter fun row => row.timeslot = timeslot)⟩

end Desk

end Bookings
