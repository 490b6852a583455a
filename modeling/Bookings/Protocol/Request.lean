import Bookings.Json.Reader
import Bookings.Json.Record
import Bookings.Json.Text
import Bookings.Slot

namespace Bookings

structure ScheduleBody where
  duration : UInt32
  capacities : String
deriving DecidableEq

inductive Request where
  | appointmentsForDay (queue : Id) (weekday : UInt8) (caller : Caller)
  | myAppointments (queue : Id) (weekday : UInt8) (caller : Caller)
  | schedule (queue : Id) (weekday : Option UInt8)
  | timeslotAvailability (queue : Id) (weekday : UInt8)
  | claimTimeslot (queue : Id) (weekday : UInt8) (timeslot : UInt32) (caller : Caller)
  | signup (queue : Id) (weekday : UInt8) (timeslot : UInt32) (caller : Caller)
      (appointment : Draft)
  | updateAppointment (id : Id) (caller : Caller) (appointment : Draft)
  | removeSignup (id : Id) (caller : Caller)
  | updateSchedule (queue : Id) (weekday : UInt8) (caller : Caller) (schedule : ScheduleBody)
  | publishOpenSlots (queue : Id) (weekday : UInt8) (caller : Caller) (template : Draft)
deriving DecidableEq

namespace Caller

def toJson (c : Caller) : Json :=
  .obj [("email", .str c.email), ("admin", .bool c.admin)]

def ofJson? (v : Json) : Option Caller := do
  match ← v.fields? ["email", "admin"] with
  | [email, admin] =>
    return ⟨← Json.required Json.string? email, ← Json.defaulted Json.bool? false admin⟩
  | _ => none

end Caller

namespace Draft

def toJson (d : Draft) : Json :=
  .obj [
    ("timeslot", .ofOption (fun t => .nat t.toNat) d.timeslot),
    ("name", .ofOption .str d.name),
    ("description", .ofOption .str d.description),
    ("location", .ofOption .str d.location),
    ("map_x", .ofOption .ofSingle d.mapX),
    ("map_y", .ofOption .ofSingle d.mapY)]

def ofJson? (v : Json) : Option Draft := do
  match ← v.fields? ["timeslot", "name", "description", "location", "map_x", "map_y"] with
  | [timeslot, name, description, location, mapX, mapY] =>
    return {
      timeslot := ← Json.optional Json.word? timeslot
      name := ← Json.optional Json.string? name
      description := ← Json.optional Json.string? description
      location := ← Json.optional Json.string? location
      mapX := ← Json.optional Json.single? mapX
      mapY := ← Json.optional Json.single? mapY }
  | _ => none

end Draft

namespace ScheduleBody

def toJson (s : ScheduleBody) : Json :=
  .obj [("duration", .nat s.duration.toNat), ("capacities", .str s.capacities)]

def ofJson? (v : Json) : Option ScheduleBody := do
  match ← v.fields? ["duration", "capacities"] with
  | [duration, capacities] =>
    return ⟨← Json.required Json.word? duration, ← Json.required Json.string? capacities⟩
  | _ => none

end ScheduleBody

namespace Request

def op : Request → String
  | appointmentsForDay .. => "appointments_for_day"
  | myAppointments .. => "my_appointments"
  | schedule .. => "schedule"
  | timeslotAvailability .. => "timeslot_availability"
  | claimTimeslot .. => "claim_timeslot"
  | signup .. => "signup"
  | updateAppointment .. => "update_appointment"
  | removeSignup .. => "remove_signup"
  | updateSchedule .. => "update_schedule"
  | publishOpenSlots .. => "publish_open_slots"

def members : Request → List (String × Json)
  | appointmentsForDay queue weekday caller =>
    [("queue", .str queue.text), ("weekday", .nat weekday.toNat), ("caller", caller.toJson)]
  | myAppointments queue weekday caller =>
    [("queue", .str queue.text), ("weekday", .nat weekday.toNat), ("caller", caller.toJson)]
  | schedule queue weekday =>
    [("queue", .str queue.text), ("weekday", .ofOption (fun d => .nat d.toNat) weekday)]
  | timeslotAvailability queue weekday =>
    [("queue", .str queue.text), ("weekday", .nat weekday.toNat)]
  | claimTimeslot queue weekday timeslot caller =>
    [("queue", .str queue.text), ("weekday", .nat weekday.toNat),
      ("timeslot", .nat timeslot.toNat), ("caller", caller.toJson)]
  | signup queue weekday timeslot caller appointment =>
    [("queue", .str queue.text), ("weekday", .nat weekday.toNat),
      ("timeslot", .nat timeslot.toNat), ("caller", caller.toJson),
      ("appointment", appointment.toJson)]
  | updateAppointment id caller appointment =>
    [("appointment_id", .str id.text), ("caller", caller.toJson),
      ("appointment", appointment.toJson)]
  | removeSignup id caller => [("appointment_id", .str id.text), ("caller", caller.toJson)]
  | updateSchedule queue weekday caller body =>
    [("queue", .str queue.text), ("weekday", .nat weekday.toNat), ("caller", caller.toJson),
      ("schedule", body.toJson)]
  | publishOpenSlots queue weekday caller template =>
    [("queue", .str queue.text), ("weekday", .nat weekday.toNat), ("caller", caller.toJson),
      ("template", template.toJson)]

def toJson (r : Request) : Json := .obj (("op", .str r.op) :: r.members)

def text (r : Request) : String := r.toJson.text

def fieldNames : (op : String) → Option (List String)
  | "appointments_for_day" => some ["queue", "weekday", "caller"]
  | "my_appointments" => some ["queue", "weekday", "caller"]
  | "schedule" => some ["queue", "weekday"]
  | "timeslot_availability" => some ["queue", "weekday"]
  | "claim_timeslot" => some ["queue", "weekday", "timeslot", "caller"]
  | "signup" => some ["queue", "weekday", "timeslot", "caller", "appointment"]
  | "update_appointment" => some ["appointment_id", "caller", "appointment"]
  | "remove_signup" => some ["appointment_id", "caller"]
  | "update_schedule" => some ["queue", "weekday", "caller", "schedule"]
  | "publish_open_slots" => some ["queue", "weekday", "caller", "template"]
  | _ => none

def ofFields? (op : String) (fields : List (Option Json)) : Option Request := do
  match op, fields with
  | "appointments_for_day", [queue, weekday, caller] =>
    return .appointmentsForDay (← Json.required Json.id? queue) (← Json.required Json.byte? weekday)
      (← Json.required Caller.ofJson? caller)
  | "my_appointments", [queue, weekday, caller] =>
    return .myAppointments (← Json.required Json.id? queue) (← Json.required Json.byte? weekday)
      (← Json.required Caller.ofJson? caller)
  | "schedule", [queue, weekday] =>
    return .schedule (← Json.required Json.id? queue) (← Json.optional Json.byte? weekday)
  | "timeslot_availability", [queue, weekday] =>
    return .timeslotAvailability (← Json.required Json.id? queue)
      (← Json.required Json.byte? weekday)
  | "claim_timeslot", [queue, weekday, timeslot, caller] =>
    return .claimTimeslot (← Json.required Json.id? queue) (← Json.required Json.byte? weekday)
      (← Json.required Json.word? timeslot) (← Json.required Caller.ofJson? caller)
  | "signup", [queue, weekday, timeslot, caller, appointment] =>
    return .signup (← Json.required Json.id? queue) (← Json.required Json.byte? weekday)
      (← Json.required Json.word? timeslot) (← Json.required Caller.ofJson? caller)
      (← Json.defaulted Draft.ofJson? {} appointment)
  | "update_appointment", [id, caller, appointment] =>
    return .updateAppointment (← Json.required Json.id? id) (← Json.required Caller.ofJson? caller)
      (← Json.defaulted Draft.ofJson? {} appointment)
  | "remove_signup", [id, caller] =>
    return .removeSignup (← Json.required Json.id? id) (← Json.required Caller.ofJson? caller)
  | "update_schedule", [queue, weekday, caller, body] =>
    return .updateSchedule (← Json.required Json.id? queue) (← Json.required Json.byte? weekday)
      (← Json.required Caller.ofJson? caller) (← Json.required ScheduleBody.ofJson? body)
  | "publish_open_slots", [queue, weekday, caller, template] =>
    return .publishOpenSlots (← Json.required Json.id? queue) (← Json.required Json.byte? weekday)
      (← Json.required Caller.ofJson? caller) (← Json.defaulted Draft.ofJson? {} template)
  | _, _ => none

/-- A request is a record behind its name; the name is a member or the first item. -/
def ofJson? : Json → Option Request
  | .obj members =>
    match Json.field? members "op" with
    | some (some (.str op)) => do
      ofFields? op (← Json.fields? (← fieldNames op) (.obj members))
    | _ => none
  | .arr (.str op :: items) => do
    ofFields? op (← Json.fields? (← fieldNames op) (.arr items))
  | _ => none

def ofText? (s : String) : Option Request := (Json.ofText? s).bind ofJson?

end Request

end Bookings
