import Bookings.Protocol.Request
import Bookings.Protocol.Response

namespace Bookings

namespace Desk

def respond {α : Type} (a : Action α) (present : α → Response) : Plan Response :=
  a.run.bind fun
    | .ok r => .done (present r)
    | .error e => .done (.ofError e)

def presentList {α : Type} (toJson : α → Json) (xs : List α) : Response :=
  .withBody .ok (.arr (xs.map toJson))

def presentUpdate : Update → Response
  | .edited => .empty .noContent
  | .moved slot => .withBody .created slot.toJson

def presentRemoval : Removal → Response
  | .removed => .empty .noContent
  | .alreadyVacated => .empty .ok

/-- The capacities are read before anything else is looked at. -/
def submitSchedule (d : Desk) (queue : Id) (weekday : UInt8) (caller : Caller)
    (body : ScheduleBody) : Action Schedule := do
  let capacities ← Action.check ((Capacities.parse body.capacities).mapError .invalidSchedule)
  d.updateSchedule queue weekday body.duration capacities caller

def dispatch (d : Desk) : Request → Plan Response
  | .appointmentsForDay queue weekday caller =>
    respond (d.appointmentsForDay queue weekday caller) (presentList Slot.toJson)
  | .myAppointments queue weekday caller =>
    respond (d.myAppointments queue weekday caller) (presentList Slot.toJson)
  | .schedule queue (some weekday) =>
    respond (scheduleForDay queue weekday) fun s => .withBody .ok s.toJson
  | .schedule queue none => respond (schedules queue) (presentList Schedule.toJson)
  | .timeslotAvailability queue weekday =>
    respond (d.timeslotAvailability queue weekday) (presentList Availability.toJson)
  | .claimTimeslot queue weekday timeslot caller =>
    respond (d.claimTimeslot queue weekday timeslot caller) fun s => .withBody .created s.toJson
  | .signup queue weekday timeslot caller appointment =>
    respond (d.signup queue weekday timeslot appointment caller) fun s =>
      .withBody .created s.toJson
  | .updateAppointment id caller appointment =>
    respond (d.updateAppointment id appointment caller) presentUpdate
  | .removeSignup id caller => respond (d.removeSignup id caller) presentRemoval
  | .updateSchedule queue weekday caller schedule =>
    respond (d.submitSchedule queue weekday caller schedule) fun _ => .empty .noContent
  | .publishOpenSlots queue weekday caller template =>
    respond (d.publishOpenSlots queue weekday template caller) fun n =>
      .withBody .created (.obj [("published", .nat n)])

/-- Lines that are no request are refused without asking the store; `explain` is what the parser says
against such a line. -/
def handleLine (d : Desk) (explain : String → String) (line : String) : Plan Response :=
  match Request.ofText? line with
  | some r => d.dispatch r
  | none => .done (.refused .badRequest ("malformed request: " ++ explain line))

end Desk

end Bookings
