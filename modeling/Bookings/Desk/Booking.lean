import Bookings.Desk.Basic

namespace Bookings

inductive Update where
  | edited
  | moved (slot : Slot)
deriving DecidableEq

inductive Removal where
  | removed
  | alreadyVacated
deriving DecidableEq

namespace Desk

def claimTimeslot (d : Desk) (queue : Id) (weekday : UInt8) (timeslot : UInt32) (caller : Caller) :
    Action Slot := do
  Action.check (Rules.caller caller)
  let w ← Action.check (d.window weekday)
  let (schedule, capacity) ← timeslotCapacity queue weekday timeslot
  Action.check (Rules.notStarted (schedule.startOf w timeslot) d.now)
  Action.call (.claim queue w timeslot capacity caller.email)

/-- From when on another row of the student stands in the way of a signup: one slot before now, as
what started then may still be in progress. -/
def exclusiveFrom (d : Desk) (schedule : Schedule) : Instant :=
  Int64.ofInt (d.now.toInt - schedule.durationMs)

def signup (d : Desk) (queue : Id) (weekday : UInt8) (timeslot : UInt32) (draft : Draft)
    (caller : Caller) : Action Slot := do
  Action.check (Rules.caller caller)
  let details ← Action.check (Rules.details draft)
  let w ← Action.check (d.window weekday)
  let (schedule, capacity) ← timeslotCapacity queue weekday timeslot
  ensureRoom queue w timeslot capacity
  let start := d.exclusiveFrom schedule
  match ← Action.call (.claimedBy queue ⟨start, farFuture⟩ caller.email) with
  | existing :: _ => Action.fail (.alreadyBooked existing.id)
  | [] =>
    let scheduledTime := schedule.startOf w timeslot
    Action.check (Rules.notStarted scheduledTime d.now)
    let id ← Action.newId
    Action.call (.insert
      ⟨id, queue, timeslot, scheduledTime, schedule.duration, some caller.email, details⟩
      ⟨w, capacity, some start⟩)

def fitsDay (w : Span) (t : Instant) (duration : UInt32) : Bool :=
  w.contains t && t.toInt + minutesMs duration ≤ w.stop.toInt

/-- Moves a row to another timeslot of today, keeping its duration. The new row is inserted before
the old claim is released, so that a failure in between leaves two rows and not none. -/
def move (d : Desk) (appointment : Id) (current : Slot) (timeslot : UInt32) (details : Details)
    (caller : Caller) : Action Slot := do
  let day := d.today
  let some w := weekdayBounds day d.now d.zone | Action.fail (.invalidWeekday day)
  let (schedule, capacity) ← timeslotCapacity current.queue day timeslot
  let scheduledTime := slotStart w timeslot current.duration
  if !fitsDay w scheduledTime current.duration then
    Action.fail (.noSuchTimeslot timeslot schedule.timeslots)
  else
    Action.check (Rules.notStarted scheduledTime d.now)
    ensureRoom current.queue w timeslot capacity
    let id ← Action.newId
    let created ← Action.call (.insert
      ⟨id, current.queue, timeslot, scheduledTime, current.duration, some caller.email, details⟩
      ⟨w, capacity, none⟩)
    match ← Action.attempt (.release appointment caller.email) with
    | .ok _ => return created
    | .error cause => Action.fail (.moveIncomplete created.id appointment cause)

def updateAppointment (d : Desk) (appointment : Id) (draft : Draft) (caller : Caller) :
    Action Update := do
  Action.check (Rules.caller caller)
  let current ← Action.call (.fetch appointment)
  if !current.isClaimed then Action.fail (.appointmentVacated appointment)
  else
    Action.check (Rules.owner current caller)
    let details ← Action.check (Rules.details draft)
    let timeslot := draft.timeslot.getD current.timeslot
    if timeslot = current.timeslot then
      Action.call (.edit appointment caller.email details)
      return .edited
    else return .moved (← d.move appointment current timeslot details caller)

def removeSignup (d : Desk) (appointment : Id) (caller : Caller) : Action Removal := do
  Action.check (Rules.caller caller)
  let current ← Action.call (.fetch appointment)
  if !current.isClaimed then return .alreadyVacated
  else
    Action.check (Rules.owner current caller)
    Action.check (Rules.cancellable current d.now)
    if ← Action.call (.release appointment caller.email) then return .removed
    else return .alreadyVacated

def updateSchedule (d : Desk) (queue : Id) (weekday : UInt8) (duration : UInt32)
    (capacities : Capacities) (caller : Caller) : Action Schedule := do
  Action.check (Rules.admin caller)
  let w ← Action.check (d.window weekday)
  let schedule : Schedule := ⟨weekday, duration, capacities⟩
  Action.check (schedule.validate.mapError .invalidSchedule)
  let rows ← Action.call (.within queue w)
  if !rows.isEmpty then Action.fail (.scheduleLocked rows.length)
  else
    Action.call (.replaceSchedule queue schedule w)
    return schedule

/-- For each timeslot that has not started, as many times as its rows fall short of its capacity:
the timeslot with its start. -/
def missingSeats (d : Desk) (schedule : Schedule) (w : Span) (rows : List Slot) :
    List (UInt32 × Instant) :=
  schedule.capacities.toList.flatMap fun (timeslot, capacity) =>
    let start := schedule.startOf w timeslot
    if start < d.now then []
    else
      let present := rows.countP fun row => row.timeslot = timeslot
      List.replicate (capacity - present) (timeslot, start)

def publishOpenSlots (d : Desk) (queue : Id) (weekday : UInt8) (template : Draft)
    (caller : Caller) : Action Nat := do
  Action.check (Rules.admin caller)
  let details ← Action.check (Rules.details template)
  let w ← Action.check (d.window weekday)
  let schedule ← requireSchedule queue weekday
  let rows ← Action.call (.within queue w)
  let slots ← Action.mintEach
    (fun (timeslot, start) id => ⟨id, queue, timeslot, start, schedule.duration, none, details⟩)
    (d.missingSeats schedule w rows)
  Action.call (.publish queue slots)

end Desk

end Bookings
