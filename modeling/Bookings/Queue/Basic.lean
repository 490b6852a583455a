import Bookings.Event
import Bookings.Queue.Bisect

namespace Bookings

structure Queue where
  schedules : Vector (Option Schedule) 7
  slots : Array Slot
deriving DecidableEq

namespace Queue

def empty : Queue := ⟨Vector.replicate 7 none, #[]⟩

instance : Inhabited Queue := ⟨empty⟩

def schedule? (q : Queue) (weekday : UInt8) : Option Schedule :=
  q.schedules[weekday.toNat]?.join

def allSchedules (q : Queue) : List Schedule :=
  q.schedules.toList.filterMap id

/-- Stores a schedule under a weekday; a weekday that does not exist stores nothing. -/
def setSchedule : Queue → UInt8 → Schedule → Queue
  | ⟨schedules, slots⟩, weekday, schedule =>
    ⟨schedules.setIfInBounds weekday.toNat (some schedule), slots⟩

@[simp]
theorem slots_setSchedule (q : Queue) (weekday : UInt8) (schedule : Schedule) :
    (q.setSchedule weekday schedule).slots = q.slots := rfl

def insertSorted (slots : Array Slot) (slot : Slot) : Array Slot :=
  slots.insertIdx (partitionPoint (fun s => s.scheduledTime ≤ slot.scheduledTime) slots) slot
    (partitionPoint_le _ _)

def insert : Queue → Slot → Queue
  | ⟨schedules, slots⟩, slot => ⟨schedules, insertSorted slots slot⟩

@[simp]
theorem slots_insert (q : Queue) (slot : Slot) :
    (q.insert slot).slots = insertSorted q.slots slot := rfl

@[simp]
theorem schedules_insert (q : Queue) (slot : Slot) :
    (q.insert slot).schedules = q.schedules := rfl

def slot? (q : Queue) (id : Id) : Option Slot :=
  q.slots.find? (fun s => s.id = id)

def modify : Queue → Id → (Slot → Slot) → Queue
  | ⟨schedules, slots⟩, id, f =>
    match slots.findIdx? (fun s => s.id = id) with
    | some i => ⟨schedules, slots.modify i f⟩
    | none => ⟨schedules, slots⟩

@[simp]
theorem schedules_modify (q : Queue) (id : Id) (f : Slot → Slot) :
    (q.modify id f).schedules = q.schedules := by
  simp only [modify]
  split <;> rfl

def setDetails (q : Queue) (id : Id) (details : Details) : Queue :=
  q.modify id fun s => { s with details }

def setStudent (q : Queue) (id : Id) (student : Option String) : Queue :=
  q.modify id fun s => { s with student }

def countBefore (q : Queue) (t : Instant) : Nat :=
  partitionPoint (fun s => s.scheduledTime < t) q.slots

/-- The rows scheduled in a window, in order; none where the window ends before it starts. -/
def within (q : Queue) (w : Span) : List Slot :=
  let low := q.countBefore w.start
  (q.slots.extract low (max (q.countBefore w.stop) low)).toList

def atTimeslot (q : Queue) (w : Span) (timeslot : UInt32) : List Slot :=
  (q.within w).filter fun s => s.timeslot = timeslot

def claimedBy (q : Queue) (w : Span) (email : String) : List Slot :=
  (q.within w).filter fun s => s.isClaimedBy email

def apply (q : Queue) : Event → Queue
  | .scheduleReplaced _ schedule => q.setSchedule schedule.weekday schedule
  | .slotCreated slot => q.insert slot
  | .slotsPublished _ slots => slots.foldl insert q
  | .detailsEdited id _ details => q.setDetails id details
  | .claimReleased id _ => q.setStudent id none
  | .slotClaimed id _ student => q.setStudent id (some student)

def snapshot (q : Queue) (id : Id) : List Event :=
  q.allSchedules.map (.scheduleReplaced id) ++ q.slots.toList.map .slotCreated

end Queue

end Bookings
