import Bookings.Event
import Bookings.Store.Error

namespace Bookings

structure Guard where
  /-- Where the claims at the timeslot are counted. -/
  window : Span
  capacity : Nat
  /-- From when on the student may hold no other row, if the insertion asks for that. -/
  exclusiveFrom : Option Instant
deriving DecidableEq

inductive Call where
  | fetch (id : Id)
  | within (queue : Id) (window : Span)
  | atTimeslot (queue : Id) (window : Span) (timeslot : UInt32)
  | claimedBy (queue : Id) (window : Span) (email : String)
  | scheduleFor (queue : Id) (weekday : UInt8)
  | allSchedules (queue : Id)
  | replaceSchedule (queue : Id) (schedule : Schedule) (window : Span)
  | insert (slot : Slot) (guard : Guard)
  | publish (queue : Id) (slots : List Slot)
  | edit (id : Id) (email : String) (details : Details)
  | release (id : Id) (email : String)
  | claim (queue : Id) (window : Span) (timeslot : UInt32) (capacity : Nat) (email : String)
deriving DecidableEq

namespace Call

@[reducible]
def Result : Call → Type
  | .fetch _ => Slot
  | .within .. => List Slot
  | .atTimeslot .. => List Slot
  | .claimedBy .. => List Slot
  | .scheduleFor .. => Option Schedule
  | .allSchedules _ => List Schedule
  | .replaceSchedule .. => Unit
  | .insert .. => Slot
  | .publish .. => Nat
  | .edit .. => Unit
  | .release .. => Bool
  | .claim .. => Slot

abbrev Answer (c : Call) : Type := Except StoreError c.Result

/-- The queue that a call creates if it is missing. -/
def home? : Call → Option Id
  | .replaceSchedule queue _ _ => some queue
  | .insert slot _ => some slot.queue
  | .publish queue slots => if slots.isEmpty then none else some queue
  | _ => none

end Call

end Bookings
