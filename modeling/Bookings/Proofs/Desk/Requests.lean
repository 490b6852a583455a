import Bookings.Proofs.Desk.Overbooking
import Bookings.Proofs.Desk.Stories

namespace Bookings

namespace Operation

def caller : Operation → Caller
  | .claimTimeslot _ _ _ caller => caller
  | .signup _ _ _ _ caller => caller
  | .updateAppointment _ _ caller => caller
  | .removeSignup _ caller => caller
  | .updateSchedule _ _ _ _ caller => caller
  | .publishOpenSlots _ _ _ caller => caller

/-- The row that the answer to a request gives to its caller. -/
def granted : (op : Operation) → Except BookingError op.Result → Option Slot
  | .claimTimeslot .., .ok slot => some slot
  | .signup .., .ok slot => some slot
  | .updateAppointment .., .ok (.moved slot) => some slot
  | _, _ => none

end Operation

namespace Desk

/-- What a request may hear, take and answer: it only reads and is refused, or it makes the calls of its kind. -/
inductive Performs (d : Desk) : (op : Operation) → List Exchange → List Id → Except BookingError op.Result → Prop
  | refused {op : Operation} {told : List Exchange} {e : BookingError} (quiet : Quiet told) :
      Performs d op told [] (.error e)
  | claimed {queue : Id} {weekday : UInt8} {timeslot : UInt32} {caller : Caller} {told : List Exchange} {w : Span}
      {schedule : Schedule} {capacity : Nat} {a : Except StoreError Slot} (quiet : Quiet told)
      (bounds : weekdayBounds weekday d.now d.zone = some w)
      (found : LookedUp told queue weekday timeslot schedule capacity)
      (ahead : Rules.notStarted (schedule.startOf w timeslot) d.now = .ok ()) (known : Rules.caller caller = .ok ()) :
      Performs d (.claimTimeslot queue weekday timeslot caller)
        (told ++ [⟨.claim queue w timeslot capacity caller.email, a⟩]) [] (a.mapError BookingError.ofStore)
  | signed {queue id : Id} {weekday : UInt8} {timeslot : UInt32} {draft : Draft} {caller : Caller}
      {told : List Exchange} {w : Span} {schedule : Schedule} {capacity : Nat} {details : Details}
      {a : Except StoreError Slot} (quiet : Quiet told) (bounds : weekdayBounds weekday d.now d.zone = some w)
      (found : LookedUp told queue weekday timeslot schedule capacity)
      (ahead : Rules.notStarted (schedule.startOf w timeslot) d.now = .ok ()) (known : Rules.caller caller = .ok ())
      (texts : Rules.details draft = .ok details) :
      Performs d (.signup queue weekday timeslot draft caller)
        (told ++ [⟨.insert ⟨id, queue, timeslot, schedule.startOf w timeslot, schedule.duration, some caller.email,
          details⟩ ⟨w, capacity, some (d.exclusiveFrom schedule)⟩, a⟩]) [id] (a.mapError BookingError.ofStore)
  | revised {appointment : Id} {draft : Draft} {caller : Caller} {told : List Exchange} {taken : List Id}
      {answer : Except BookingError Update} (story : d.Revises appointment draft caller told taken answer) :
      Performs d (.updateAppointment appointment draft caller) told taken answer
  | removed {appointment : Id} {caller : Caller} {told : List Exchange} {taken : List Id}
      {answer : Except BookingError Removal} (story : d.Removes appointment caller told answer) :
      Performs d (.removeSignup appointment caller) told taken answer
  | replaced {queue : Id} {weekday : UInt8} {duration : UInt32} {capacities : Capacities} {caller : Caller}
      {told : List Exchange} {w : Span} {a : Except StoreError Unit} (quiet : Quiet told)
      (bounds : weekdayBounds weekday d.now d.zone = some w)
      (valid : Schedule.validate ⟨weekday, duration, capacities⟩ = .ok ()) :
      Performs d (.updateSchedule queue weekday duration capacities caller)
        (told ++ [⟨.replaceSchedule queue ⟨weekday, duration, capacities⟩ w, a⟩]) []
        ((a.mapError BookingError.ofStore).map fun _ => ⟨weekday, duration, capacities⟩)
  | published {queue : Id} {weekday : UInt8} {template : Draft} {caller : Caller} {told : List Exchange} {w : Span}
      {schedule : Schedule} {details : Details} {slots : List Slot} {taken : List Id} {a : Except StoreError Nat}
      (quiet : Quiet told) (bounds : weekdayBounds weekday d.now d.zone = some w)
      (stored : ⟨.scheduleFor queue weekday, .ok (some schedule)⟩ ∈ told) (texts : Rules.details template = .ok details)
      (placed : ∀ slot ∈ slots, slot.timeslot.toNat < schedule.timeslots ∧
        slot.scheduledTime = schedule.startOf w slot.timeslot ∧ slot.duration = schedule.duration ∧
          slot.details = details) :
      Performs d (.publishOpenSlots queue weekday template caller) (told ++ [⟨.publish queue slots, a⟩]) taken
        (a.mapError BookingError.ofStore)

theorem tells_claimTimeslot (d : Desk) (queue : Id) (weekday : UInt8) (timeslot : UInt32) (caller : Caller) :
    (d.claimTimeslot queue weekday timeslot caller).Tells (d.Performs (.claimTimeslot queue weekday timeslot caller))
      [] [] := by
  rw [claimTimeslot]
  refine Action.tells_check (fun _ known => ?_) fun e _ => .refused quiet_nil
  refine Action.tells_check (fun w window => ?_) fun e _ => .refused quiet_nil
  refine tells_timeslotCapacity quiet_nil (fun e later quiet _ => .refused quiet) ?_
  intro schedule capacity later _ found quiet
  refine Action.tells_check (fun _ ahead => ?_) fun e _ => .refused quiet
  exact ⟨fun a => Performs.claimed quiet (window_eq_ok window) found ahead known⟩

theorem tells_signup (d : Desk) (queue : Id) (weekday : UInt8) (timeslot : UInt32) (draft : Draft) (caller : Caller) :
    (d.signup queue weekday timeslot draft caller).Tells (d.Performs (.signup queue weekday timeslot draft caller))
      [] [] := by
  rw [signup]
  refine Action.tells_check (fun _ known => ?_) fun e _ => .refused quiet_nil
  refine Action.tells_check (fun details texts => ?_) fun e _ => .refused quiet_nil
  refine Action.tells_check (fun w window => ?_) fun e _ => .refused quiet_nil
  refine tells_timeslotCapacity quiet_nil (fun e later quiet _ => .refused quiet) ?_
  intro schedule capacity told _ found quiet
  refine tells_ensureRoom quiet (fun e later quiet _ => .refused quiet) fun later kept quiet => ?_
  have reads := fun a => quiet.snoc (x := ⟨.claimedBy queue ⟨d.exclusiveFrom schedule, farFuture⟩ caller.email, a⟩) rfl
  refine Action.tells_call (fun rows => ?_) fun e => .refused (reads _)
  cases rows with
  | cons existing rest => exact Action.tells_fail (.refused (reads _))
  | nil =>
    refine Action.tells_check (fun _ ahead => Action.tells_newId fun id => ?_) fun e _ => .refused (reads _)
    have found := found.mono kept
    exact ⟨fun a => Performs.signed (reads _) (window_eq_ok window) (found.mono (List.subset_append_left _ _)) ahead
      known texts⟩

theorem tells_updateSchedule (d : Desk) (queue : Id) (weekday : UInt8) (duration : UInt32) (capacities : Capacities)
    (caller : Caller) :
    (d.updateSchedule queue weekday duration capacities caller).Tells
      (d.Performs (.updateSchedule queue weekday duration capacities caller)) [] [] := by
  refine (d.tells_reschedules queue weekday duration capacities caller).mono fun told taken answer story => ?_
  cases story with
  | refused quiet => exact .refused quiet
  | replaced quiet admin bounds valid => exact .replaced quiet bounds valid

theorem tells_publishOpenSlots (d : Desk) (queue : Id) (weekday : UInt8) (template : Draft) (caller : Caller) :
    (d.publishOpenSlots queue weekday template caller).Tells
      (d.Performs (.publishOpenSlots queue weekday template caller)) [] [] := by
  refine (d.tells_publishes queue weekday template caller).mono fun told taken answer story => ?_
  cases story with
  | refused quiet => exact .refused quiet
  | asked quiet admin texts bounds stored seen enough =>
    refine .published quiet bounds stored texts fun slot member => ?_
    obtain ⟨⟨timeslot, start⟩, missing, id, rfl⟩ := exists_of_mem_zipWith member
    obtain ⟨present, same⟩ := mem_missingSeats missing
    exact ⟨present, same, rfl, rfl⟩

theorem tells_perform (d : Desk) (op : Operation) : (d.perform op).Tells (d.Performs op) [] [] := by
  cases op with
  | claimTimeslot queue weekday timeslot caller => exact d.tells_claimTimeslot queue weekday timeslot caller
  | signup queue weekday timeslot draft caller => exact d.tells_signup queue weekday timeslot draft caller
  | updateAppointment appointment draft caller =>
    exact (d.tells_updateAppointment appointment draft caller).mono fun _ _ _ story => .revised story
  | removeSignup appointment caller =>
    exact (d.tells_removeSignup appointment caller).mono fun _ _ _ story => .removed story
  | updateSchedule queue weekday duration capacities caller =>
    exact d.tells_updateSchedule queue weekday duration capacities caller
  | publishOpenSlots queue weekday template caller => exact d.tells_publishOpenSlots queue weekday template caller

end Desk

namespace Service

def reply (ids : Nat → Id) (zone : Zone) (s : Service) (v : Visit) : Except BookingError v.operation.Result :=
  ((ExceptT.run ((Desk.mk zone v.now).perform v.operation)).run (world ids v.faults) s).1

def grant? (ids : Nat → Id) (zone : Zone) (s : Service) (v : Visit) : Option Slot :=
  v.operation.granted (s.reply ids zone v)

theorem told_visit {ids : Nat → Id} {zone : Zone} {v : Visit}
    {post : List Exchange → List Id → Except BookingError v.operation.Result → Prop}
    (tells : ((Desk.mk zone v.now).perform v.operation).Tells post [] []) (s : Service) :
    ∃ told, s.store.Answers v.faults told (s.visit ids zone v).store ∧
      post told (s.coming ids (s.visit ids zone v).minted) (s.reply ids zone v) := by
  obtain ⟨told, answers, story⟩ := tells.run.run ids v.faults s
  exact ⟨told, answers, story⟩

end Service

end Bookings
