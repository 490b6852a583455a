import Bookings.Proofs.Desk.Operation
import Bookings.Proofs.Desk.Tells

namespace Bookings

namespace BookingError

def incomplete : BookingError → Bool
  | .moveIncomplete .. => true
  | _ => false

theorem incomplete_ofStore (e : StoreError) : (ofStore e).incomplete = false := by
  cases e <;> rfl

theorem incomplete_of_status {e : BookingError} {status : Status} (shown : e.status = status)
    (plain : status ≠ .internal) : e.incomplete = false := by
  cases e with
  | moveIncomplete created stale cause => exact absurd shown.symm plain
  | _ => rfl

end BookingError

namespace Rules

variable {e : BookingError}

theorem status_required {text : Option String} {field : String} (refused : required text field = .error e) :
    e.status = .badRequest := by
  unfold required at refused
  dsimp only at refused
  split at refused
  · cases refused
    rfl
  · split at refused <;> cases refused
    rfl

theorem exists_required {draft : Draft} (refused : details draft = .error e) :
    ∃ text field, required text field = .error e := by
  unfold details at refused
  cases name : required draft.name "name" with
  | error cause =>
    rw [name] at refused
    cases refused
    exact ⟨_, _, name⟩
  | ok first =>
    cases description : required draft.description "description" with
    | error cause =>
      rw [name, description] at refused
      cases refused
      exact ⟨_, _, description⟩
    | ok second =>
      cases location : required draft.location "location" with
      | error cause =>
        rw [name, description, location] at refused
        cases refused
        exact ⟨_, _, location⟩
      | ok third =>
        rw [name, description, location] at refused
        cases refused

theorem status_details {draft : Draft} (refused : details draft = .error e) : e.status = .badRequest := by
  obtain ⟨_, _, missing⟩ := exists_required refused
  exact status_required missing

theorem status_caller {c : Caller} (refused : caller c = .error e) : e.status = .badRequest := by
  unfold caller at refused
  split at refused
  · cases refused
    rfl
  · split at refused <;> cases refused
    rfl

theorem status_weekday {weekday : UInt8} (refused : Rules.weekday weekday = .error e) : e.status = .badRequest := by
  unfold Rules.weekday at refused
  split at refused <;> cases refused
  rfl

theorem status_notStarted {t now : Instant} (refused : notStarted t now = .error e) : e.status = .badRequest := by
  unfold notStarted at refused
  split at refused <;> cases refused
  rfl

theorem status_cancellable {row : Slot} {now : Instant} (refused : cancellable row now = .error e) :
    e.status = .badRequest := by
  unfold cancellable at refused
  split at refused <;> cases refused
  rfl

theorem status_owner {row : Slot} {c : Caller} (refused : owner row c = .error e) : e.status = .forbidden := by
  unfold owner at refused
  split at refused <;> cases refused
  rfl

theorem status_admin {c : Caller} (refused : admin c = .error e) : e.status = .forbidden := by
  unfold admin at refused
  split at refused <;> cases refused
  rfl

theorem notStarted_eq_ok {t now : Instant} (ahead : notStarted t now = .ok ()) : now ≤ t := by
  unfold notStarted at ahead
  split at ahead
  · contradiction
  · exact Int64.not_lt.mp ‹_›

theorem cancellable_eq_ok {row : Slot} {now : Instant} (ahead : cancellable row now = .ok ()) :
    now ≤ row.scheduledTime := by
  unfold cancellable at ahead
  split at ahead
  · contradiction
  · exact Int64.not_lt.mp ‹_›

theorem owner_eq_ok {row : Slot} {c : Caller} (held : owner row c = .ok ()) : row.isClaimedBy c.email = true := by
  unfold owner at held
  split at held
  · assumption
  · contradiction

end Rules

namespace Desk

/-- What a move puts in the place of a row: the caller's, of the same length in the same queue, at the timeslot that the
draft names, which lies in the day as a whole and has not started. -/
structure Replaces (d : Desk) (draft : Draft) (caller : Caller) (w : Span) (old new : Slot) : Prop where
  owned : old.isClaimedBy caller.email = true
  claimed : new.student = some caller.email
  queue : new.queue = old.queue
  duration : new.duration = old.duration
  requested : draft.timeslot = some new.timeslot
  differs : new.timeslot ≠ old.timeslot
  texts : Rules.details draft = .ok new.details
  bounds : weekdayBounds d.today d.now d.zone = some w
  start : new.scheduledTime = slotStart w new.timeslot old.duration
  fits : fitsDay w new.scheduledTime new.duration = true
  ahead : Rules.notStarted new.scheduledTime d.now = .ok ()

structure LookedUp (told : List Exchange) (queue : Id) (weekday : UInt8) (timeslot : UInt32) (schedule : Schedule)
    (capacity : Nat) : Prop where
  stored : ⟨.scheduleFor queue weekday, .ok (some schedule)⟩ ∈ told
  seats : schedule.capacityAt timeslot = some capacity

/-- What an update may hear, take and answer: it only reads and is refused; it edits; it is refused the row that it
inserts; or it inserts the row and releases the old one, however that is answered. -/
inductive Revises (d : Desk) (appointment : Id) (draft : Draft) (caller : Caller) :
    List Exchange → List Id → Except BookingError Update → Prop
  | refused {told : List Exchange} {e : BookingError} (quiet : Quiet told) (plain : e.incomplete = false) :
      Revises d appointment draft caller told [] (.error e)
  | edited {told : List Exchange} {details : Details} {a : Except StoreError Unit} (quiet : Quiet told)
      (texts : Rules.details draft = .ok details) :
      Revises d appointment draft caller (told ++ [⟨.edit appointment caller.email details, a⟩]) []
        ((a.mapError BookingError.ofStore).map fun _ => .edited)
  | full {told : List Exchange} {current new : Slot} {guard : Guard} {e : StoreError} (quiet : Quiet told)
      (fetched : ⟨.fetch appointment, .ok current⟩ ∈ told) (queue : new.queue = current.queue) :
      Revises d appointment draft caller (told ++ [⟨.insert new guard, .error e⟩]) [new.id] (.error (.ofStore e))
  | moved {told : List Exchange} {current new created : Slot} {w : Span} {schedule : Schedule} {capacity : Nat}
      {a : Except StoreError Bool} (quiet : Quiet told) (fetched : ⟨.fetch appointment, .ok current⟩ ∈ told)
      (replaces : d.Replaces draft caller w current new) (known : Rules.caller caller = .ok ())
      (found : LookedUp told current.queue d.today new.timeslot schedule capacity) :
      Revises d appointment draft caller
        (told ++ [⟨.insert new ⟨w, capacity, none⟩, .ok created⟩, ⟨.release appointment caller.email, a⟩]) [new.id]
        (match a with
          | .ok _ => .ok (.moved created)
          | .error cause => .error (.moveIncomplete created.id appointment cause))

/-- What a removal may hear and answer: it only reads, and is refused or finds nothing to give up; or it releases the
row, which has not started. -/
inductive Removes (d : Desk) (appointment : Id) (caller : Caller) :
    List Exchange → Except BookingError Removal → Prop
  | refused {told : List Exchange} {e : BookingError} (quiet : Quiet told) (plain : e.incomplete = false) :
      Removes d appointment caller told (.error e)
  | vacated {told : List Exchange} (quiet : Quiet told) : Removes d appointment caller told (.ok .alreadyVacated)
  | released {told : List Exchange} {current : Slot} {a : Except StoreError Bool} (quiet : Quiet told)
      (fetched : ⟨.fetch appointment, .ok current⟩ ∈ told) (ahead : Rules.cancellable current d.now = .ok ()) :
      Removes d appointment caller (told ++ [⟨.release appointment caller.email, a⟩])
        ((a.mapError BookingError.ofStore).map fun gone => if gone = true then .removed else .alreadyVacated)

inductive Reschedules (d : Desk) (queue : Id) (schedule : Schedule) (caller : Caller) :
    List Exchange → List Id → Except BookingError Schedule → Prop
  | refused {told : List Exchange} {e : BookingError} (quiet : Quiet told) :
      Reschedules d queue schedule caller told [] (.error e)
  | replaced {told : List Exchange} {w : Span} {a : Except StoreError Unit} (quiet : Quiet told)
      (admin : Rules.admin caller = .ok ()) (bounds : weekdayBounds schedule.weekday d.now d.zone = some w)
      (valid : schedule.validate = .ok ()) :
      Reschedules d queue schedule caller (told ++ [⟨.replaceSchedule queue schedule w, a⟩]) []
        ((a.mapError BookingError.ofStore).map fun _ => schedule)

def openRows (queue : Id) (schedule : Schedule) (details : Details) (places : List (UInt32 × Instant)) (ids : List Id) :
    List Slot :=
  places.zipWith (fun place id => ⟨id, queue, place.1, place.2, schedule.duration, none, details⟩) ids

/-- What a publisher may hear and answer: it only reads and is refused, or an admin asks for the rows that are missing by
what was read. -/
inductive Publishes (d : Desk) (queue : Id) (weekday : UInt8) (template : Draft) (caller : Caller) :
    List Exchange → List Id → Except BookingError Nat → Prop
  | refused {told : List Exchange} {e : BookingError} (quiet : Quiet told) :
      Publishes d queue weekday template caller told [] (.error e)
  | asked {told : List Exchange} {w : Span} {schedule : Schedule} {rows : List Slot} {details : Details} {ids : List Id}
      {a : Except StoreError Nat} (quiet : Quiet told) (admin : Rules.admin caller = .ok ())
      (texts : Rules.details template = .ok details) (bounds : weekdayBounds weekday d.now d.zone = some w)
      (stored : ⟨.scheduleFor queue weekday, .ok (some schedule)⟩ ∈ told) (seen : ⟨.within queue w, .ok rows⟩ ∈ told)
      (enough : ids.length = (d.missingSeats schedule w rows).length) :
      Publishes d queue weekday template caller
        (told ++ [⟨.publish queue (openRows queue schedule details (d.missingSeats schedule w rows) ids), a⟩]) ids
        (a.mapError BookingError.ofStore)

variable {β : Type} {d : Desk} {told : List Exchange} {taken : List Id}
  {post : List Exchange → List Id → Except BookingError β → Prop}

theorem LookedUp.mono {later : List Exchange} {queue : Id} {weekday : UInt8} {timeslot : UInt32} {schedule : Schedule}
    {capacity : Nat} (found : LookedUp told queue weekday timeslot schedule capacity) (kept : told ⊆ later) :
    LookedUp later queue weekday timeslot schedule capacity := ⟨kept found.stored, found.seats⟩

theorem tells_requireSchedule {queue : Id} {weekday : UInt8} {f : Schedule → Action β} (quiet : Quiet told)
    (refused : ∀ e later, Quiet later → e.incomplete = false → post later taken (.error e))
    (stored : ∀ schedule later, told ⊆ later → ⟨.scheduleFor queue weekday, .ok (some schedule)⟩ ∈ later → Quiet later →
      (f schedule).Tells post later taken) :
    (requireSchedule queue weekday >>= f).Tells post told taken := by
  have reads : ∀ a, Quiet (told ++ [⟨.scheduleFor queue weekday, a⟩]) := fun a => quiet.snoc rfl
  apply Action.tells_bind
  rw [requireSchedule]
  refine Action.tells_call (fun found => ?_) fun e => refused _ _ (reads _) (BookingError.incomplete_ofStore e)
  cases found with
  | none => exact Action.tells_fail (refused _ _ (reads _) rfl)
  | some schedule =>
    exact Action.tells_pure (stored schedule _ (List.subset_append_left _ _)
      (List.mem_append_right _ (List.mem_singleton.mpr rfl)) (reads _))

theorem tells_timeslotCapacity {queue : Id} {weekday : UInt8} {timeslot : UInt32} {f : Schedule × Nat → Action β}
    (quiet : Quiet told) (refused : ∀ e later, Quiet later → e.incomplete = false → post later taken (.error e))
    (stored : ∀ schedule capacity later, told ⊆ later → LookedUp later queue weekday timeslot schedule capacity →
      Quiet later → (f (schedule, capacity)).Tells post later taken) :
    (timeslotCapacity queue weekday timeslot >>= f).Tells post told taken := by
  apply Action.tells_bind
  rw [timeslotCapacity]
  refine tells_requireSchedule quiet refused fun schedule later kept present quiet => ?_
  cases seats : schedule.capacityAt timeslot with
  | none => exact Action.tells_fail (refused _ _ quiet rfl)
  | some capacity => exact Action.tells_pure (stored schedule capacity later kept ⟨present, seats⟩ quiet)

theorem tells_ensureRoom {queue : Id} {w : Span} {timeslot : UInt32} {capacity : Nat} {f : Unit → Action β}
    (quiet : Quiet told) (refused : ∀ e later, Quiet later → e.incomplete = false → post later taken (.error e))
    (room : ∀ later, told ⊆ later → Quiet later → (f ()).Tells post later taken) :
    (ensureRoom queue w timeslot capacity >>= f).Tells post told taken := by
  have reads : ∀ a, Quiet (told ++ [⟨.atTimeslot queue w timeslot, a⟩]) := fun a => quiet.snoc rfl
  apply Action.tells_bind
  rw [ensureRoom]
  refine Action.tells_call (fun rows => ?_) fun e => refused _ _ (reads _) (BookingError.incomplete_ofStore e)
  split
  · exact Action.tells_pure (room _ (List.subset_append_left _ _) (reads _))
  · exact Action.tells_fail (refused _ _ (reads _) rfl)

theorem tells_move {appointment : Id} {current : Slot} {timeslot : UInt32} {details : Details} {draft : Draft}
    {caller : Caller} (known : Rules.caller caller = .ok ()) (quiet : Quiet told)
    (fetched : ⟨.fetch appointment, .ok current⟩ ∈ told) (owned : current.isClaimedBy caller.email = true)
    (requested : draft.timeslot = some timeslot) (differs : timeslot ≠ current.timeslot)
    (texts : Rules.details draft = .ok details) :
    (d.move appointment current timeslot details caller).Tells
      (fun told taken answer => d.Revises appointment draft caller told taken (answer.map .moved)) told [] := by
  have refused : ∀ e later, Quiet later → e.incomplete = false →
      d.Revises appointment draft caller later [] ((Except.error e : Except BookingError Slot).map .moved) :=
    fun e later quiet plain => .refused quiet plain
  unfold move
  dsimp only
  cases bounds : weekdayBounds d.today d.now d.zone with
  | none => exact Action.tells_fail (refused _ _ quiet rfl)
  | some w =>
    refine tells_timeslotCapacity quiet refused fun schedule capacity later kept found quiet => ?_
    have fetched := kept fetched
    dsimp only
    split
    · exact Action.tells_fail (refused _ _ quiet rfl)
    · rename_i fits
      rw [Bool.not_eq_true, Bool.not_eq_false'] at fits
      refine Action.tells_check (fun _ ahead => ?_) fun e early =>
        refused _ _ quiet (BookingError.incomplete_of_status (Rules.status_notStarted early) (by decide))
      refine tells_ensureRoom quiet refused fun later kept quiet => Action.tells_newId fun id => ?_
      have fetched := kept fetched
      have found := found.mono kept
      refine Action.tells_call (fun created => ?_) fun e => .full quiet fetched rfl
      refine Action.tells_attempt fun a => ?_
      have replaces : d.Replaces draft caller w current ⟨id, current.queue, timeslot,
          slotStart w timeslot current.duration, current.duration, some caller.email, details⟩ :=
        ⟨owned, rfl, rfl, rfl, requested, differs, texts, bounds, rfl, fits, ahead⟩
      rw [List.append_assoc]
      cases a with
      | ok gone => exact Action.tells_pure (.moved (a := .ok gone) quiet fetched replaces known found)
      | error cause => exact Action.tells_fail (.moved (a := .error cause) quiet fetched replaces known found)

theorem tells_updateAppointment (d : Desk) (appointment : Id) (draft : Draft) (caller : Caller) :
    (d.updateAppointment appointment draft caller).Tells (d.Revises appointment draft caller) [] [] := by
  have refused : ∀ e told, Quiet told → e.incomplete = false → d.Revises appointment draft caller told [] (.error e) :=
    fun e told quiet plain => .refused quiet plain
  have reads : ∀ a, Quiet ([] ++ [⟨.fetch appointment, a⟩]) := fun a => quiet_nil.snoc rfl
  rw [updateAppointment]
  refine Action.tells_check (fun _ known => ?_) fun e unknown =>
    refused _ _ quiet_nil (BookingError.incomplete_of_status (Rules.status_caller unknown) (by decide))
  refine Action.tells_call (fun current => ?_) fun e => refused _ _ (reads _) (BookingError.incomplete_ofStore e)
  split
  · exact Action.tells_fail (refused _ _ (reads _) rfl)
  · refine Action.tells_check (fun _ held => ?_) fun e other =>
      refused _ _ (reads _) (BookingError.incomplete_of_status (Rules.status_owner other) (by decide))
    refine Action.tells_check (fun details texts => ?_) fun e bad =>
      refused _ _ (reads _) (BookingError.incomplete_of_status (Rules.status_details bad) (by decide))
    dsimp only
    split
    · refine Action.tells_call (fun a => ?_) fun e => ?_
      · exact Action.tells_pure (.edited (a := .ok a) (reads _) texts)
      · exact .edited (a := .error e) (reads _) texts
    · rename_i differs
      have requested : draft.timeslot = some (draft.timeslot.getD current.timeslot) := by
        cases named : draft.timeslot with
        | none =>
          rw [named] at differs
          exact absurd rfl differs
        | some timeslot => rfl
      exact Action.tells_map (tells_move known (reads _) (List.mem_singleton.mpr rfl) (Rules.owner_eq_ok held) requested
        differs texts)

theorem tells_removeSignup (d : Desk) (appointment : Id) (caller : Caller) :
    (d.removeSignup appointment caller).Tells (fun told _ answer => d.Removes appointment caller told answer) [] [] := by
  have reads : ∀ a, Quiet ([] ++ [⟨.fetch appointment, a⟩]) := fun a => quiet_nil.snoc rfl
  rw [removeSignup]
  refine Action.tells_check (fun _ known => ?_) fun e unknown =>
    .refused quiet_nil (BookingError.incomplete_of_status (Rules.status_caller unknown) (by decide))
  refine Action.tells_call (fun current => ?_) fun e => .refused (reads _) (BookingError.incomplete_ofStore e)
  split
  · exact Action.tells_pure (.vacated (reads _))
  · refine Action.tells_check (fun _ held => ?_) fun e other =>
      .refused (reads _) (BookingError.incomplete_of_status (Rules.status_owner other) (by decide))
    refine Action.tells_check (fun _ ahead => ?_) fun e late =>
      .refused (reads _) (BookingError.incomplete_of_status (Rules.status_cancellable late) (by decide))
    have fetched : (⟨.fetch appointment, .ok current⟩ : Exchange) ∈ [] ++ [⟨.fetch appointment, .ok current⟩] :=
      List.mem_singleton.mpr rfl
    refine Action.tells_call (fun gone => ?_) fun e => .released (a := .error e) (reads _) fetched ahead
    cases gone with
    | true => exact Action.tells_pure (.released (a := .ok true) (reads _) fetched ahead)
    | false => exact Action.tells_pure (.released (a := .ok false) (reads _) fetched ahead)

theorem tells_reschedules (d : Desk) (queue : Id) (weekday : UInt8) (duration : UInt32) (capacities : Capacities)
    (caller : Caller) :
    (d.updateSchedule queue weekday duration capacities caller).Tells
      (d.Reschedules queue ⟨weekday, duration, capacities⟩ caller) [] [] := by
  rw [updateSchedule]
  refine Action.tells_check (fun _ admin => ?_) fun e _ => .refused quiet_nil
  refine Action.tells_check (fun w window => ?_) fun e _ => .refused quiet_nil
  refine Action.tells_check (fun _ checked => ?_) fun e _ => .refused quiet_nil
  have reads : ∀ a, Quiet ([] ++ [⟨.within queue w, a⟩]) := fun a => quiet_nil.snoc rfl
  have valid := eq_ok_of_mapError checked
  refine Action.tells_call (fun rows => ?_) fun e => .refused (reads _)
  split
  · exact Action.tells_fail (.refused (reads _))
  · have bounds := window_eq_ok window
    refine Action.tells_call (fun done => ?_) fun e => .replaced (a := .error e) (reads _) admin bounds valid
    exact Action.tells_pure (.replaced (a := .ok done) (reads _) admin bounds valid)

theorem tells_publishes (d : Desk) (queue : Id) (weekday : UInt8) (template : Draft) (caller : Caller) :
    (d.publishOpenSlots queue weekday template caller).Tells (d.Publishes queue weekday template caller) [] [] := by
  rw [publishOpenSlots]
  refine Action.tells_check (fun _ admin => ?_) fun e _ => .refused quiet_nil
  refine Action.tells_check (fun details texts => ?_) fun e _ => .refused quiet_nil
  refine Action.tells_check (fun w window => ?_) fun e _ => .refused quiet_nil
  refine tells_requireSchedule quiet_nil (fun e later quiet _ => .refused quiet) ?_
  intro schedule told _ stored quiet
  have reads := fun a => quiet.snoc (x := ⟨.within queue w, a⟩) rfl
  refine Action.tells_call (fun rows => Action.tells_mintEach fun ids enough => ?_) fun e => .refused (reads _)
  have stored := List.mem_append_left [⟨.within queue w, .ok rows⟩] stored
  have seen : ⟨.within queue w, .ok rows⟩ ∈ told ++ [⟨.within queue w, .ok rows⟩] :=
    List.mem_append_right _ (List.mem_singleton.mpr rfl)
  exact ⟨fun a => Publishes.asked (reads _) admin texts (window_eq_ok window) stored seen enough⟩

end Desk

end Bookings
