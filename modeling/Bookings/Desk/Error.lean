import Bookings.Schedule.Error
import Bookings.Store.Error

namespace Bookings

inductive Status where
  | ok
  | created
  | noContent
  | badRequest
  | forbidden
  | notFound
  | conflict
  | internal
deriving DecidableEq

def Status.code : Status → Nat
  | .ok => 200
  | .created => 201
  | .noContent => 204
  | .badRequest => 400
  | .forbidden => 403
  | .notFound => 404
  | .conflict => 409
  | .internal => 500

inductive BookingError where
  | missingField (field : String)
  | fieldTooLong (field : String)
  | invalidWeekday (weekday : UInt8)
  | invalidSchedule (cause : ScheduleError)
  | inThePast (scheduledTime : Instant)
  | cancelAfterStart (scheduledTime : Instant)
  | notOwner (appointment : Id)
  | adminOnly
  | appointmentNotFound (id : Id)
  | appointmentVacated (id : Id)
  | noSchedule (queue : Id) (weekday : UInt8)
  | noSuchTimeslot (timeslot : UInt32) (timeslots : Nat)
  | noOpenSlots (timeslot : UInt32) (capacity : Nat)
  | nothingToClaim (timeslot : UInt32)
  | alreadyBooked (existing : Id)
  | scheduleLocked (appointments : Nat)
  /-- A move booked `created` but could not release `stale`; the student holds both. -/
  | moveIncomplete (created stale : Id) (cause : StoreError)
  | store (cause : StoreError)
deriving DecidableEq

namespace BookingError

/-- A refused condition of the store is a refusal of the request; all else is a fault. -/
def ofStore : StoreError → BookingError
  | .capacityExhausted timeslot capacity => .noOpenSlots timeslot capacity
  | .studentBusy existing => .alreadyBooked existing
  | .windowOccupied appointments => .scheduleLocked appointments
  | .noOpenSlot timeslot => .nothingToClaim timeslot
  | .claimedByOther id => .notOwner id
  | .vacated id => .appointmentVacated id
  | .notFound id => .appointmentNotFound id
  | .limitExceeded limit => .store (.limitExceeded limit)
  | .logFailed cause => .store (.logFailed cause)

def status : BookingError → Status
  | .missingField _ | .fieldTooLong _ | .invalidWeekday _ | .invalidSchedule _ | .inThePast _
  | .cancelAfterStart _ => .badRequest
  | .notOwner _ | .adminOnly => .forbidden
  | .appointmentNotFound _ | .appointmentVacated _ | .noSchedule _ _ | .noSuchTimeslot _ _ =>
    .notFound
  | .noOpenSlots _ _ | .nothingToClaim _ | .alreadyBooked _ | .scheduleLocked _ => .conflict
  | .moveIncomplete _ _ _ | .store _ => .internal

def message : BookingError → String
  | .missingField field => "missing field: " ++ field
  | .fieldTooLong field => "field too long: " ++ field
  | .invalidWeekday weekday => "invalid weekday: " ++ toString weekday.toNat
  | .invalidSchedule cause => "invalid schedule: " ++ cause.message
  | .inThePast t => "scheduled time " ++ toString t.toInt ++ " is in the past"
  | .cancelAfterStart t => "appointment started at " ++ toString t.toInt ++ ", too late to cancel"
  | .notOwner id => "caller does not own appointment " ++ id.text
  | .adminOnly => "admin privileges required"
  | .appointmentNotFound id => "appointment not found: " ++ id.text
  | .appointmentVacated id => "appointment " ++ id.text ++ " has no student"
  | .noSchedule queue weekday =>
    "queue " ++ queue.text ++ " has no schedule for weekday " ++ toString weekday.toNat
  | .noSuchTimeslot timeslot timeslots =>
    "timeslot " ++ toString timeslot.toNat ++ " out of range (" ++ toString timeslots ++
      " timeslots)"
  | .noOpenSlots timeslot capacity =>
    "timeslot " ++ toString timeslot.toNat ++ " full: capacity " ++ toString capacity
  | .nothingToClaim timeslot => "no open slot row at timeslot " ++ toString timeslot.toNat
  | .alreadyBooked existing => "student already holds appointment " ++ existing.text
  | .scheduleLocked appointments =>
    "schedule locked by " ++ toString appointments ++ " appointment(s)"
  | .moveIncomplete created stale cause =>
    "move created " ++ created.text ++ " but failed to release " ++ stale.text ++ ": " ++
      cause.message
  | .store cause => "store error: " ++ cause.message

def publicMessage : BookingError → String
  | .missingField field => "It looks like you left out the " ++ field ++ " of the appointment."
  | .fieldTooLong field => "The " ++ field ++ " of the appointment is too long."
  | .invalidWeekday weekday => "Invalid day \"" ++ toString weekday.toNat ++ "\"."
  | .invalidSchedule cause => "That schedule isn't valid: " ++ cause.message ++ "."
  | .inThePast _ => "You can't book an appointment in the past!"
  | .cancelAfterStart _ => "You can't cancel an appointment that already started."
  | .notOwner _ => "You can't change someone else's appointment!"
  | .adminOnly => "Only queue admins can do that."
  | .appointmentNotFound _ => "We couldn't find that appointment."
  | .appointmentVacated _ => "This appointment doesn't exist. Perhaps it was already cancelled?"
  | .noSchedule _ _ => "There is no appointment schedule for that day."
  | .noSuchTimeslot _ _ => "That timeslot doesn't exist!"
  | .noOpenSlots _ _ => "There are no slots open at that time!"
  | .nothingToClaim _ => "There is no open slot to claim at that time."
  | .alreadyBooked _ => "You already have an upcoming appointment in this queue!"
  | .scheduleLocked appointments =>
    "The schedule can't be changed while " ++ toString appointments ++
      " appointment(s) exist that day."
  | .moveIncomplete created _ _ =>
    "Your new appointment " ++ created.text ++
      " was booked, but the old one couldn't be released. Please try again."
  | .store _ => "Something went wrong on our end."

end BookingError

end Bookings
