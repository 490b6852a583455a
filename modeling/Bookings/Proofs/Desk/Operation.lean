import Bookings.Desk.Booking
import Bookings.Proofs.Desk.Asks
import Bookings.Proofs.Week

namespace Bookings

inductive Operation where
  | claimTimeslot (queue : Id) (weekday : UInt8) (timeslot : UInt32) (caller : Caller)
  | signup (queue : Id) (weekday : UInt8) (timeslot : UInt32) (draft : Draft) (caller : Caller)
  | updateAppointment (appointment : Id) (draft : Draft) (caller : Caller)
  | removeSignup (appointment : Id) (caller : Caller)
  | updateSchedule (queue : Id) (weekday : UInt8) (duration : UInt32) (capacities : Capacities) (caller : Caller)
  | publishOpenSlots (queue : Id) (weekday : UInt8) (template : Draft) (caller : Caller)
deriving DecidableEq

namespace Operation

@[reducible]
def Result : Operation → Type
  | .claimTimeslot .. => Slot
  | .signup .. => Slot
  | .updateAppointment .. => Update
  | .removeSignup .. => Removal
  | .updateSchedule .. => Schedule
  | .publishOpenSlots .. => Nat

def replaces : Operation → Bool
  | .updateSchedule .. => true
  | _ => false

end Operation

/-- What a call of a request rests on: the window is that of a weekday of the current week, and the
capacity and the timeslots are those of the weekday's schedule. -/
def Call.Fits (d : Desk) (schedules : Schedules) : Call → Prop
  | .insert slot guard => ∃ weekday schedule,
    weekdayBounds weekday d.now d.zone = some guard.window ∧ schedules slot.queue weekday = some schedule ∧
      schedule.capacityAt slot.timeslot = some guard.capacity ∧
        (schedule.validate = .ok () → guard.window.contains slot.scheduledTime = true)
  | .claim queue w timeslot capacity _ => ∃ weekday schedule,
    weekdayBounds weekday d.now d.zone = some w ∧ schedules queue weekday = some schedule ∧
      schedule.capacityAt timeslot = some capacity
  | .publish queue slots => ∃ weekday w schedule,
    weekdayBounds weekday d.now d.zone = some w ∧ schedules queue weekday = some schedule ∧
      ∀ slot ∈ slots, slot.timeslot.toNat < schedule.timeslots ∧
        (schedule.validate = .ok () → w.contains slot.scheduledTime = true)
  | .replaceSchedule _ schedule w =>
    weekdayBounds schedule.weekday d.now d.zone = some w ∧ schedule.validate = .ok ()
  | _ => True

theorem exists_of_mem_zipWith {α β γ : Type} {f : α → β → γ} {as : List α} {bs : List β} {c : γ}
    (member : c ∈ as.zipWith f bs) : ∃ a ∈ as, ∃ b, f a b = c := by
  rw [← List.map_uncurry_zip_eq_zipWith, List.mem_map] at member
  obtain ⟨⟨a, b⟩, paired, same⟩ := member
  exact ⟨a, (List.of_mem_zip paired).1, b, same⟩

theorem map_zipWith_right {α β γ : Type} {as : List α} {bs : List β} (f : α → β → γ) (g : γ → β)
    (keeps : ∀ a b, g (f a b) = b) (same : bs.length = as.length) : (as.zipWith f bs).map g = bs := by
  have snd : (fun a b => g (f a b)) = fun (_ : α) (b : β) => b := by
    funext a b
    exact keeps a b
  rw [List.map_zipWith, snd, ← List.map_uncurry_zip_eq_zipWith]
  exact List.map_snd_zip (Nat.le_of_eq same)

theorem eq_ok_of_mapError {ε δ α : Type} {f : ε → δ} {r : Except ε α} {a : α} (passed : r.mapError f = .ok a) :
    r = .ok a := by
  cases r with
  | error e => contradiction
  | ok b =>
    cases passed
    rfl

namespace Desk

def perform (d : Desk) : (op : Operation) → Action op.Result
  | .claimTimeslot queue weekday timeslot caller => d.claimTimeslot queue weekday timeslot caller
  | .signup queue weekday timeslot draft caller => d.signup queue weekday timeslot draft caller
  | .updateAppointment appointment draft caller => d.updateAppointment appointment draft caller
  | .removeSignup appointment caller => d.removeSignup appointment caller
  | .updateSchedule queue weekday duration capacities caller =>
    d.updateSchedule queue weekday duration capacities caller
  | .publishOpenSlots queue weekday template caller => d.publishOpenSlots queue weekday template caller

def Permits (d : Desk) (replacing : Bool) (schedules : Schedules) (c : Call) : Prop :=
  c.Fits d schedules ∧ (c.replaces = true → replacing = true)

/-- The calls by which a request may change the store, with what it has looked up and checked by then. -/
inductive Writes (d : Desk) (schedules : Schedules) : Operation → Call → Prop
  | claim {queue : Id} {weekday : UInt8} {timeslot : UInt32} {caller : Caller} {w : Span} {schedule : Schedule}
      {capacity : Nat} (bounds : weekdayBounds weekday d.now d.zone = some w)
      (stored : schedules queue weekday = some schedule) (seats : schedule.capacityAt timeslot = some capacity)
      (ahead : Rules.notStarted (schedule.startOf w timeslot) d.now = .ok ()) :
      Writes d schedules (.claimTimeslot queue weekday timeslot caller)
        (.claim queue w timeslot capacity caller.email)
  | signup {queue id : Id} {weekday : UInt8} {timeslot : UInt32} {draft : Draft} {caller : Caller} {w : Span}
      {schedule : Schedule} {capacity : Nat} {details : Details}
      (bounds : weekdayBounds weekday d.now d.zone = some w) (stored : schedules queue weekday = some schedule)
      (seats : schedule.capacityAt timeslot = some capacity)
      (ahead : Rules.notStarted (schedule.startOf w timeslot) d.now = .ok ()) :
      Writes d schedules (.signup queue weekday timeslot draft caller)
        (.insert ⟨id, queue, timeslot, schedule.startOf w timeslot, schedule.duration, some caller.email, details⟩
          ⟨w, capacity, some (d.exclusiveFrom schedule)⟩)
  | move {appointment id queue : Id} {draft : Draft} {caller : Caller} {timeslot duration : UInt32} {w : Span}
      {schedule : Schedule} {capacity : Nat} {details : Details}
      (bounds : weekdayBounds d.today d.now d.zone = some w) (stored : schedules queue d.today = some schedule)
      (seats : schedule.capacityAt timeslot = some capacity)
      (fits : fitsDay w (slotStart w timeslot duration) duration = true)
      (ahead : Rules.notStarted (slotStart w timeslot duration) d.now = .ok ()) :
      Writes d schedules (.updateAppointment appointment draft caller)
        (.insert ⟨id, queue, timeslot, slotStart w timeslot duration, duration, some caller.email, details⟩
          ⟨w, capacity, none⟩)
  | edit {appointment : Id} {draft : Draft} {caller : Caller} {details : Details} :
      Writes d schedules (.updateAppointment appointment draft caller) (.edit appointment caller.email details)
  | vacate {appointment : Id} {draft : Draft} {caller : Caller} :
      Writes d schedules (.updateAppointment appointment draft caller) (.release appointment caller.email)
  | remove {appointment : Id} {caller : Caller} :
      Writes d schedules (.removeSignup appointment caller) (.release appointment caller.email)
  | replace {queue : Id} {weekday : UInt8} {duration : UInt32} {capacities : Capacities} {caller : Caller} {w : Span}
      (bounds : weekdayBounds weekday d.now d.zone = some w)
      (valid : Schedule.validate ⟨weekday, duration, capacities⟩ = .ok ()) :
      Writes d schedules (.updateSchedule queue weekday duration capacities caller)
        (.replaceSchedule queue ⟨weekday, duration, capacities⟩ w)
  | publish {queue : Id} {weekday : UInt8} {template : Draft} {caller : Caller} {w : Span} {schedule : Schedule}
      {slots : List Slot} (bounds : weekdayBounds weekday d.now d.zone = some w)
      (stored : schedules queue weekday = some schedule)
      (placed : ∀ slot ∈ slots, slot.timeslot.toNat < schedule.timeslots ∧
        slot.scheduledTime = schedule.startOf w slot.timeslot ∧ slot.duration = schedule.duration) :
      Writes d schedules (.publishOpenSlots queue weekday template caller) (.publish queue slots)

def Makes (d : Desk) (op : Operation) (schedules : Schedules) (c : Call) : Prop :=
  c.reads = true ∨ d.Writes schedules op c

theorem Writes.permits {d : Desk} {schedules : Schedules} {op : Operation} {c : Call} (writes : d.Writes schedules op c) :
    d.Permits op.replaces schedules c := by
  cases writes with
  | claim bounds stored seats ahead => exact ⟨⟨_, _, bounds, stored, seats⟩, nofun⟩
  | signup bounds stored seats ahead =>
    refine ⟨⟨_, _, bounds, stored, seats, ?_⟩, nofun⟩
    exact fun valid => Schedule.contains_startOf valid bounds (Schedule.lt_timeslots seats)
  | move bounds stored seats fits ahead =>
    rw [fitsDay, Bool.and_eq_true] at fits
    exact ⟨⟨_, _, bounds, stored, seats, fun _ => fits.1⟩, nofun⟩
  | edit => exact ⟨True.intro, nofun⟩
  | vacate => exact ⟨True.intro, nofun⟩
  | remove => exact ⟨True.intro, nofun⟩
  | replace bounds valid => exact ⟨⟨bounds, valid⟩, fun _ => rfl⟩
  | publish bounds stored placed =>
    refine ⟨⟨_, _, _, bounds, stored, ?_⟩, nofun⟩
    intro slot member
    obtain ⟨present, start, _⟩ := placed slot member
    refine ⟨present, fun valid => ?_⟩
    rw [start]
    exact Schedule.contains_startOf valid bounds present

theorem Makes.permits {d : Desk} {schedules : Schedules} {op : Operation} {c : Call} (makes : d.Makes op schedules c) :
    d.Permits op.replaces schedules c := by
  rcases makes with reads | writes
  · cases c <;> first | exact ⟨True.intro, nofun⟩ | contradiction
  · exact writes.permits

variable {d : Desk} {op : Operation} {schedules : Schedules} {taken : List Id} {β : Type}
  {post : Schedules → List Id → β → Prop}

theorem window_eq_ok {weekday : UInt8} {w : Span} (found : d.window weekday = .ok w) :
    weekdayBounds weekday d.now d.zone = some w := by
  rw [window, Rules.weekday] at found
  split at found
  · contradiction
  · cases bounds : weekdayBounds weekday d.now d.zone with
    | none =>
      rw [bounds] at found
      contradiction
    | some v =>
      rw [bounds] at found
      cases found
      rfl

theorem asks_requireSchedule {queue : Id} {weekday : UInt8} {f : Schedule → Action β}
    (stored : ∀ schedule, schedules queue weekday = some schedule →
      Action.Asks (d.Makes op) post schedules taken (f schedule)) :
    Action.Asks (d.Makes op) post schedules taken (requireSchedule queue weekday >>= f) := by
  apply Action.asks_bind
  rw [requireSchedule]
  refine Action.asks_read (.inl rfl) rfl rfl fun found truthful => ?_
  have told : found = schedules queue weekday := truthful
  cases found with
  | none => exact Action.asks_fail
  | some schedule => exact Action.asks_pure (stored schedule told.symm)

theorem asks_timeslotCapacity {queue : Id} {weekday : UInt8} {timeslot : UInt32} {f : Schedule × Nat → Action β}
    (stored : ∀ schedule capacity, schedules queue weekday = some schedule →
      schedule.capacityAt timeslot = some capacity →
        Action.Asks (d.Makes op) post schedules taken (f (schedule, capacity))) :
    Action.Asks (d.Makes op) post schedules taken (timeslotCapacity queue weekday timeslot >>= f) := by
  apply Action.asks_bind
  rw [timeslotCapacity]
  refine asks_requireSchedule fun schedule present => ?_
  cases seats : schedule.capacityAt timeslot with
  | none => exact Action.asks_fail
  | some capacity => exact Action.asks_pure (stored schedule capacity present seats)

theorem asks_ensureRoom {queue : Id} {w : Span} {timeslot : UInt32} {capacity : Nat} {f : Unit → Action β}
    (room : Action.Asks (d.Makes op) post schedules taken (f ())) :
    Action.Asks (d.Makes op) post schedules taken (ensureRoom queue w timeslot capacity >>= f) := by
  apply Action.asks_bind
  rw [ensureRoom]
  refine Action.asks_read (.inl rfl) rfl rfl fun rows _ => ?_
  split
  · exact Action.asks_pure room
  · exact Action.asks_fail

theorem asks_claimTimeslot (d : Desk) (queue : Id) (weekday : UInt8) (timeslot : UInt32) (caller : Caller) :
    Action.Asks (d.Makes (.claimTimeslot queue weekday timeslot caller)) (fun _ _ _ => True) schedules []
      (d.claimTimeslot queue weekday timeslot caller) := by
  rw [claimTimeslot]
  refine Action.asks_check fun _ known => Action.asks_check fun w window => ?_
  refine asks_timeslotCapacity fun schedule capacity stored seats => ?_
  refine Action.asks_check fun _ ahead => ?_
  exact Action.asks_call (.claim queue w timeslot capacity caller.email)
    (.inr (.claim (window_eq_ok window) stored seats ahead)) (.inl rfl) fun _ _ _ _ => True.intro

theorem asks_signup (d : Desk) (queue : Id) (weekday : UInt8) (timeslot : UInt32) (draft : Draft) (caller : Caller) :
    Action.Asks (d.Makes (.signup queue weekday timeslot draft caller)) (fun _ _ _ => True) schedules []
      (d.signup queue weekday timeslot draft caller) := by
  rw [signup]
  refine Action.asks_check fun _ known => Action.asks_check fun details texts => ?_
  refine Action.asks_check fun w window => asks_timeslotCapacity fun schedule capacity stored seats => ?_
  refine asks_ensureRoom (Action.asks_read (.inl rfl) rfl rfl fun rows _ => ?_)
  cases rows with
  | cons existing rest => exact Action.asks_fail
  | nil =>
    refine Action.asks_check fun _ ahead => Action.asks_newId fun id => ?_
    exact Action.asks_call (.insert _ _) (.inr (.signup (window_eq_ok window) stored seats ahead))
      (.inr (List.Perm.refl _)) fun _ _ _ _ => True.intro

theorem asks_move (d : Desk) (appointment : Id) (current : Slot) (timeslot : UInt32) (details : Details)
    (draft : Draft) (caller : Caller) :
    Action.Asks (d.Makes (.updateAppointment appointment draft caller)) (fun _ _ _ => True) schedules []
      (d.move appointment current timeslot details caller) := by
  unfold move
  dsimp only
  cases bounds : weekdayBounds d.today d.now d.zone with
  | none => exact Action.asks_fail
  | some w =>
    refine asks_timeslotCapacity fun schedule capacity stored seats => ?_
    dsimp only
    split
    · exact Action.asks_fail
    · rename_i fits
      rw [Bool.not_eq_true, Bool.not_eq_false'] at fits
      refine Action.asks_check fun _ ahead => asks_ensureRoom (Action.asks_newId fun id => ?_)
      apply Action.asks_bind
      refine Action.asks_call (.insert _ _) (.inr (.move bounds stored seats fits ahead))
        (.inr (List.Perm.refl _)) fun created later kept _ => ?_
      refine Action.asks_attempt (.inr .vacate) rfl rfl fun released => ?_
      cases released with
      | ok _ => exact Action.asks_pure True.intro
      | error cause => exact Action.asks_fail

theorem asks_updateAppointment (d : Desk) (appointment : Id) (draft : Draft) (caller : Caller) :
    Action.Asks (d.Makes (.updateAppointment appointment draft caller)) (fun _ _ _ => True) schedules []
      (d.updateAppointment appointment draft caller) := by
  rw [updateAppointment]
  refine Action.asks_check fun _ known => Action.asks_read (.inl rfl) rfl rfl fun current _ => ?_
  split
  · exact Action.asks_fail
  · refine Action.asks_check fun _ owned => Action.asks_check fun details texts => ?_
    dsimp only
    split
    · exact Action.asks_read (.inr .edit) rfl rfl fun _ _ => Action.asks_pure True.intro
    · exact Action.asks_bind ((d.asks_move appointment current _ details draft caller).mono
        fun _ _ _ _ => Action.asks_pure True.intro)

theorem asks_removeSignup (d : Desk) (appointment : Id) (caller : Caller) :
    Action.Asks (d.Makes (.removeSignup appointment caller)) (fun _ _ _ => True) schedules []
      (d.removeSignup appointment caller) := by
  rw [removeSignup]
  refine Action.asks_check fun _ known => Action.asks_read (.inl rfl) rfl rfl fun current _ => ?_
  split
  · exact Action.asks_pure True.intro
  · refine Action.asks_check fun _ owned => Action.asks_check fun _ ahead => ?_
    refine Action.asks_read (.inr .remove) rfl rfl fun released _ => ?_
    split
    · exact Action.asks_pure True.intro
    · exact Action.asks_pure True.intro

theorem asks_updateSchedule (d : Desk) (queue : Id) (weekday : UInt8) (duration : UInt32) (capacities : Capacities)
    (caller : Caller) :
    Action.Asks (d.Makes (.updateSchedule queue weekday duration capacities caller)) (fun _ _ _ => True) schedules []
      (d.updateSchedule queue weekday duration capacities caller) := by
  rw [updateSchedule]
  refine Action.asks_check fun _ admin => Action.asks_check fun w window => ?_
  refine Action.asks_check fun _ checked => Action.asks_read (.inl rfl) rfl rfl fun rows _ => ?_
  have valid := eq_ok_of_mapError checked
  split
  · exact Action.asks_fail
  · apply Action.asks_bind
    exact Action.asks_call (.replaceSchedule queue ⟨weekday, duration, capacities⟩ w)
      (.inr (.replace (window_eq_ok window) valid)) (.inl rfl) fun _ _ _ _ => Action.asks_pure True.intro

theorem mem_missingSeats {schedule : Schedule} {w : Span} {rows : List Slot} {timeslot : UInt32} {start : Instant}
    (member : (timeslot, start) ∈ d.missingSeats schedule w rows) :
    timeslot.toNat < schedule.timeslots ∧ start = schedule.startOf w timeslot := by
  rw [missingSeats, List.mem_flatMap] at member
  obtain ⟨⟨slotted, capacity⟩, seats, repeated⟩ := member
  dsimp only at repeated
  split at repeated
  · contradiction
  · cases List.eq_of_mem_replicate repeated
    refine ⟨?_, rfl⟩
    rw [Capacities.toList, List.mem_map] at seats
    obtain ⟨⟨digit, i⟩, placed, same⟩ := seats
    cases same
    have inside := (List.mem_zipIdx' placed).1
    exact Nat.lt_of_le_of_lt (Nat.mod_le i _) inside

theorem asks_publishOpenSlots (d : Desk) (queue : Id) (weekday : UInt8) (template : Draft) (caller : Caller) :
    Action.Asks (d.Makes (.publishOpenSlots queue weekday template caller)) (fun _ _ _ => True) schedules []
      (d.publishOpenSlots queue weekday template caller) := by
  rw [publishOpenSlots]
  refine Action.asks_check fun _ admin => Action.asks_check fun details texts => ?_
  refine Action.asks_check fun w window => asks_requireSchedule fun schedule stored => ?_
  refine Action.asks_read (.inl rfl) rfl rfl fun rows _ => ?_
  refine Action.asks_mintEach fun ids enough => ?_
  refine Action.asks_call (.publish queue _) (.inr (.publish (window_eq_ok window) stored ?_)) (.inr ?_)
    fun _ _ _ _ => True.intro
  · intro slot member
    obtain ⟨⟨timeslot, start⟩, missing, id, rfl⟩ := exists_of_mem_zipWith member
    obtain ⟨present, same⟩ := mem_missingSeats missing
    exact ⟨present, same, rfl⟩
  · rw [Call.newIds, map_zipWith_right _ _ (fun _ _ => rfl) enough, List.append_nil]
    exact (List.reverse_perm ids).symm

theorem asks_makes (d : Desk) (op : Operation) :
    Action.Asks (d.Makes op) (fun _ _ _ => True) schedules [] (d.perform op) := by
  cases op with
  | claimTimeslot queue weekday timeslot caller => exact d.asks_claimTimeslot queue weekday timeslot caller
  | signup queue weekday timeslot draft caller => exact d.asks_signup queue weekday timeslot draft caller
  | updateAppointment appointment draft caller => exact d.asks_updateAppointment appointment draft caller
  | removeSignup appointment caller => exact d.asks_removeSignup appointment caller
  | updateSchedule queue weekday duration capacities caller =>
    exact d.asks_updateSchedule queue weekday duration capacities caller
  | publishOpenSlots queue weekday template caller => exact d.asks_publishOpenSlots queue weekday template caller

theorem asks_perform (d : Desk) (op : Operation) :
    Action.Asks (d.Permits op.replaces) (fun _ _ _ => True) schedules [] (d.perform op) :=
  (d.asks_makes op).permit fun _ _ makes => makes.permits

end Desk

end Bookings
