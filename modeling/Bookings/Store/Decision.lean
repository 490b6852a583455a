import Bookings.Store.Call
import Bookings.Store.Register

namespace Bookings

def maxQueues : Nat := 10000

def maxSlotsPerQueue : Nat := 100000

inductive Decision (α : Type) where
  | answer (a : Except StoreError α)
  | record (e : Event) (reply : Register → Except StoreError α)

namespace Register

def resolve (r : Register) (id : Id) : Except StoreError (Id × Slot) :=
  match r.homes[id]? with
  | none => .error (.notFound id)
  | some home =>
    match r.queue? home with
    | none => .error (.notFound home)
    | some q =>
      match q.slot? id with
      | some slot => .ok (home, slot)
      | none => .error (.notFound id)

/-- The state with the queue that a call is about to write to, unless there are too many. -/
def prepare (r : Register) (queue : Id) : Except StoreError Register :=
  if (r.queue? queue).isSome then .ok r
  else if maxQueues ≤ r.queueCount then .error (.limitExceeded "too many queues")
  else .ok (r.addQueue queue)

def slotCount (r : Register) (queue : Id) : Nat :=
  match r.queue? queue with
  | some q => q.slots.size
  | none => 0

def decideReplaceSchedule (r : Register) (queue : Id) (schedule : Schedule) (w : Span) :
    Decision Unit :=
  let appointments := (r.within queue w).length
  if 0 < appointments then .answer (.error (.windowOccupied appointments))
  else .record (.scheduleReplaced queue schedule) fun _ => .ok ()

def conflict? (r : Register) (slot : Slot) (guard : Guard) : Option Slot :=
  match guard.exclusiveFrom, slot.student with
  | some start, some email => (r.claimedBy slot.queue ⟨start, farFuture⟩ email).head?
  | _, _ => none

def decideInsert (r : Register) (slot : Slot) (guard : Guard) : Decision Slot :=
  if maxSlotsPerQueue ≤ r.slotCount slot.queue then
    .answer (.error (.limitExceeded "too many appointments in queue"))
  else if !hasRoom (openSeats guard.capacity
      (r.atTimeslot slot.queue guard.window slot.timeslot)) then
    .answer (.error (.capacityExhausted slot.timeslot guard.capacity))
  else
    match r.conflict? slot guard with
    | some existing => .answer (.error (.studentBusy existing.id))
    | none => .record (.slotCreated slot) fun _ => .ok slot

def decidePublish (r : Register) (queue : Id) (slots : List Slot) : Decision Nat :=
  if slots.isEmpty then .answer (.ok 0)
  else if maxSlotsPerQueue < r.slotCount queue + slots.length then
    .answer (.error (.limitExceeded "too many appointments in queue"))
  else
    let rows := slots.map fun slot => { slot with queue, student := none }
    .record (.slotsPublished queue rows) fun _ => .ok rows.length

def decideEdit (r : Register) (id : Id) (email : String) (details : Details) : Decision Unit :=
  match r.resolve id with
  | .error e => .answer (.error e)
  | .ok (home, slot) =>
    match slot.student with
    | none => .answer (.error (.vacated id))
    | some holder =>
      if holder = email then .record (.detailsEdited id home details) fun _ => .ok ()
      else .answer (.error (.claimedByOther id))

/-- Releasing a row that nobody holds changes nothing and answers `false`. -/
def decideRelease (r : Register) (id : Id) (email : String) : Decision Bool :=
  match r.resolve id with
  | .error e => .answer (.error e)
  | .ok (home, slot) =>
    match slot.student with
    | none => .answer (.ok false)
    | some holder =>
      if holder = email then .record (.claimReleased id home) fun _ => .ok true
      else .answer (.error (.claimedByOther id))

def slotIn (r : Register) (queue id : Id) : Except StoreError Slot :=
  match (r.queue? queue).bind (·.slot? id) with
  | some slot => .ok slot
  | none => .error (.notFound id)

def decideClaim (r : Register) (queue : Id) (w : Span) (timeslot : UInt32) (capacity : Nat)
    (email : String) : Decision Slot :=
  match r.queue? queue with
  | none => .answer (.error (.noOpenSlot timeslot))
  | some q =>
    let rows := q.atTimeslot w timeslot
    if !hasRoom (openSeats capacity rows) then
      .answer (.error (.capacityExhausted timeslot capacity))
    else
      match rows.find? fun row => !row.isClaimed with
      | none => .answer (.error (.noOpenSlot timeslot))
      | some row => .record (.slotClaimed row.id queue email) fun r => r.slotIn queue row.id

def decide (r : Register) : (c : Call) → Decision c.Result
  | .fetch id => .answer ((r.resolve id).map Prod.snd)
  | .within queue w => .answer (.ok (r.within queue w))
  | .atTimeslot queue w timeslot => .answer (.ok (r.atTimeslot queue w timeslot))
  | .claimedBy queue w email => .answer (.ok (r.claimedBy queue w email))
  | .scheduleFor queue weekday => .answer (.ok (r.schedule? queue weekday))
  | .allSchedules queue => .answer (.ok (r.schedules queue))
  | .replaceSchedule queue schedule w => r.decideReplaceSchedule queue schedule w
  | .insert slot guard => r.decideInsert slot guard
  | .publish queue slots => r.decidePublish queue slots
  | .edit id email details => r.decideEdit id email details
  | .release id email => r.decideRelease id email
  | .claim queue w timeslot capacity email => r.decideClaim queue w timeslot capacity email

end Register

end Bookings
