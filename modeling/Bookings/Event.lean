import Bookings.Schedule.Basic
import Bookings.Slot

namespace Bookings

inductive Event where
  | scheduleReplaced (queue : Id) (schedule : Schedule)
  | slotCreated (slot : Slot)
  /-- A batch of open rows, logged whole or not at all. -/
  | slotsPublished (queue : Id) (slots : List Slot)
  | detailsEdited (id queue : Id) (details : Details)
  | claimReleased (id queue : Id)
  | slotClaimed (id queue : Id) (student : String)
deriving DecidableEq

namespace Event

def queue : Event → Id
  | .scheduleReplaced queue _ => queue
  | .slotCreated slot => slot.queue
  | .slotsPublished queue _ => queue
  | .detailsEdited _ queue _ => queue
  | .claimReleased _ queue => queue
  | .slotClaimed _ queue _ => queue

def created : Event → List Slot
  | .slotCreated slot => [slot]
  | .slotsPublished _ slots => slots
  | _ => []

end Event

end Bookings
