import Bookings.Desk.Booking
import Bookings.Desk.Query
import Bookings.Json.Record
import Bookings.Json.Text

namespace Bookings

def Slot.toJson (s : Slot) : Json :=
  .obj [
    ("description", .str s.details.description),
    ("duration", .nat s.duration.toNat),
    ("id", .str s.id.text),
    ("location", .str s.details.location),
    ("map_x", .ofSingle s.details.mapX),
    ("map_y", .ofSingle s.details.mapY),
    ("name", .str s.details.name),
    ("queue", .str s.queue.text),
    ("scheduled_time", .int s.scheduledTime.toInt),
    ("student_email", .ofOption .str s.student),
    ("timeslot", .nat s.timeslot.toNat)]

def Slot.ofJson? (v : Json) : Option Slot := do
  match ← v.fields? ["id", "queue", "timeslot", "scheduled_time", "duration", "student_email",
    "name", "description", "location", "map_x", "map_y"] with
  | [id, queue, timeslot, scheduledTime, duration, student, name, description, location, mapX,
      mapY] =>
    return {
      id := ← Json.required Json.id? id
      queue := ← Json.required Json.id? queue
      timeslot := ← Json.required Json.word? timeslot
      scheduledTime := ← Json.required Json.int64? scheduledTime
      duration := ← Json.required Json.word? duration
      student := ← Json.optional Json.string? student
      details := {
        name := ← Json.required Json.string? name
        description := ← Json.required Json.string? description
        location := ← Json.required Json.string? location
        mapX := ← Json.required Json.single? mapX
        mapY := ← Json.required Json.single? mapY } }
  | _ => none

def Schedule.toJson (s : Schedule) : Json :=
  .obj [
    ("capacities", .str s.capacities.text),
    ("duration", .nat s.duration.toNat),
    ("weekday", .nat s.weekday.toNat)]

def Schedule.ofText? (s : String) : Option Schedule := do
  match ← Json.fieldsOfText? ["weekday", "duration", "capacities"] s with
  | [weekday, duration, digits] =>
    let weekday ← Json.required Json.byte? weekday
    let duration ← Json.required Json.word? duration
    match Capacities.parse (← Json.required Json.string? digits) with
    | .ok capacities => return ⟨weekday, duration, capacities⟩
    | .error _ => none
  | _ => none

def Availability.toJson (a : Availability) : Json :=
  .obj [
    ("capacity", .nat a.capacity),
    ("open", .int a.seats),
    ("scheduled_time", .int a.scheduledTime.toInt),
    ("timeslot", .nat a.timeslot.toNat)]

structure Response where
  status : Nat
  body : Option Json := none
  error : Option String := none

namespace Response

def withBody (status : Status) (body : Json) : Response :=
  { status := status.code, body := some body }

def empty (status : Status) : Response := { status := status.code }

def refused (status : Status) (message : String) : Response :=
  { status := status.code, error := some message }

def ofError (e : BookingError) : Response := refused e.status e.publicMessage

def toJson (r : Response) : Json :=
  .obj (("status", .nat r.status) ::
    ((r.body.map fun v => ("body", v)).toList ++ (r.error.map fun e => ("error", .str e)).toList))

def line (r : Response) : String := r.toJson.text

def ofText? (s : String) : Option Response := do
  match ← Json.fieldsOfText? ["status", "body", "error"] s with
  | [status, body, error] =>
    return {
      status := ← Json.required (Json.natBelow? 65536) status
      body := ← Json.optional some body
      error := ← Json.optional Json.string? error }
  | _ => none

end Response

end Bookings
