import Bookings.Queue.Basic

namespace Bookings

structure Register where
  queues : IdMap Queue
  /-- The queue of each row, by the row's identifier. -/
  homes : IdMap Id

namespace Register

def empty : Register := ⟨∅, ∅⟩

def queue? (r : Register) (id : Id) : Option Queue := r.queues[id]?

def queueCount (r : Register) : Nat := r.queues.size

def addQueue (r : Register) (id : Id) : Register :=
  { r with queues := r.queues.alter id fun q => some (q.getD .empty) }

theorem queue?_addQueue (r : Register) (id other : Id) :
    (r.addQueue id).queue? other =
      if other = id then some ((r.queue? id).getD .empty) else r.queue? other := by
  simp only [addQueue, queue?, Std.ExtTreeMap.getElem?_alter, Std.LawfulEqCmp.compare_eq_iff_eq]
  grind

/-- The state after an event; its queue comes into being if it was missing. -/
def apply : Register → Event → Register
  | ⟨queues, homes⟩, e =>
    ⟨queues.alter e.queue fun q => some ((q.getD .empty).apply e),
      e.created.foldl (fun homes slot => homes.insert slot.id e.queue) homes⟩

theorem queue?_apply (r : Register) (e : Event) (id : Id) :
    (r.apply e).queue? id =
      if id = e.queue then some (((r.queue? id).getD .empty).apply e) else r.queue? id := by
  simp only [apply, queue?, Std.ExtTreeMap.getElem?_alter, Std.LawfulEqCmp.compare_eq_iff_eq]
  grind

def applyAll (r : Register) (es : List Event) : Register := es.foldl apply r

theorem applyAll_append (r : Register) (es fs : List Event) :
    r.applyAll (es ++ fs) = (r.applyAll es).applyAll fs := List.foldl_append

def ofEvents (es : List Event) : Register := empty.applyAll es

def snapshotOf (queues : List (Id × Queue)) : List Event :=
  queues.flatMap fun (id, q) => q.snapshot id

def snapshot (r : Register) : List Event := snapshotOf r.queues.toList

/-- The rows of a queue in a window; a missing queue has none. -/
def within (r : Register) (queue : Id) (w : Span) : List Slot :=
  match r.queue? queue with
  | some q => q.within w
  | none => []

def atTimeslot (r : Register) (queue : Id) (w : Span) (timeslot : UInt32) : List Slot :=
  match r.queue? queue with
  | some q => q.atTimeslot w timeslot
  | none => []

def claimedBy (r : Register) (queue : Id) (w : Span) (email : String) : List Slot :=
  match r.queue? queue with
  | some q => q.claimedBy w email
  | none => []

def schedule? (r : Register) (queue : Id) (weekday : UInt8) : Option Schedule :=
  match r.queue? queue with
  | some q => q.schedule? weekday
  | none => none

def schedules (r : Register) (queue : Id) : List Schedule :=
  match r.queue? queue with
  | some q => q.allSchedules
  | none => []

end Register

end Bookings
