import Bookings.Event
import Bookings.Log.Field

namespace Bookings.Log

def scheduleBytes (s : Schedule) : List UInt8 :=
  s.weekday :: (word32Bytes s.duration ++ textBytes s.capacities.text)

def readSchedule? (bytes : List UInt8) : Option (Schedule × List UInt8) := do
  let (weekday, bytes) ← readByte? bytes
  let (duration, bytes) ← readWord32? bytes
  let (digits, bytes) ← readText? bytes
  match Capacities.parse digits with
  | .ok capacities => return (⟨weekday, duration, capacities⟩, bytes)
  | .error _ => none

def detailsBytes (d : Details) : List UInt8 :=
  textBytes d.name ++ (textBytes d.description ++ (textBytes d.location ++
    (singleBytes d.mapX ++ singleBytes d.mapY)))

def readDetails? (bytes : List UInt8) : Option (Details × List UInt8) := do
  let (name, bytes) ← readText? bytes
  let (description, bytes) ← readText? bytes
  let (location, bytes) ← readText? bytes
  let (mapX, bytes) ← readSingle? bytes
  let (mapY, bytes) ← readSingle? bytes
  return (⟨name, description, location, mapX, mapY⟩, bytes)

def slotBytes (s : Slot) : List UInt8 :=
  idBytes s.id ++ (idBytes s.queue ++ (word32Bytes s.timeslot ++ (intBytes s.scheduledTime ++
    (word32Bytes s.duration ++ (optionalBytes textBytes s.student ++ detailsBytes s.details)))))

def readSlot? (bytes : List UInt8) : Option (Slot × List UInt8) := do
  let (id, bytes) ← readId? bytes
  let (queue, bytes) ← readId? bytes
  let (timeslot, bytes) ← readWord32? bytes
  let (scheduledTime, bytes) ← readInt? bytes
  let (duration, bytes) ← readWord32? bytes
  let (student, bytes) ← readOptional? readText? bytes
  let (details, bytes) ← readDetails? bytes
  return (⟨id, queue, timeslot, scheduledTime, duration, student, details⟩, bytes)

def eventBytes : Event → List UInt8
  | .scheduleReplaced queue schedule => word32Bytes 0 ++ (idBytes queue ++ scheduleBytes schedule)
  | .slotCreated slot => word32Bytes 1 ++ slotBytes slot
  | .slotsPublished queue slots => word32Bytes 2 ++ (idBytes queue ++ listBytes slotBytes slots)
  | .detailsEdited id queue details =>
    word32Bytes 3 ++ (idBytes id ++ (idBytes queue ++ detailsBytes details))
  | .claimReleased id queue => word32Bytes 4 ++ (idBytes id ++ idBytes queue)
  | .slotClaimed id queue student =>
    word32Bytes 5 ++ (idBytes id ++ (idBytes queue ++ textBytes student))

def readEvent? (bytes : List UInt8) : Option Event := do
  let (kind, bytes) ← readWord32? bytes
  match kind.toNat with
  | 0 =>
    let (queue, bytes) ← readId? bytes
    let (schedule, _) ← readSchedule? bytes
    return .scheduleReplaced queue schedule
  | 1 =>
    let (slot, _) ← readSlot? bytes
    return .slotCreated slot
  | 2 =>
    let (queue, bytes) ← readId? bytes
    let (slots, _) ← readList? readSlot? bytes
    return .slotsPublished queue slots
  | 3 =>
    let (id, bytes) ← readId? bytes
    let (queue, bytes) ← readId? bytes
    let (details, _) ← readDetails? bytes
    return .detailsEdited id queue details
  | 4 =>
    let (id, bytes) ← readId? bytes
    let (queue, _) ← readId? bytes
    return .claimReleased id queue
  | 5 =>
    let (id, bytes) ← readId? bytes
    let (queue, bytes) ← readId? bytes
    let (student, _) ← readText? bytes
    return .slotClaimed id queue student
  | _ => none

end Bookings.Log
