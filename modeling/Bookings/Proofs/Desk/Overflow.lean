import Bookings.Proofs.Arithmetic
import Bookings.Proofs.Desk.Balance
import Bookings.Proofs.Desk.View

namespace Bookings

namespace Checked

/-- An action that comes to no result where a value does not fit its word. -/
structure Guarded (α : Type) where
  run : Action (Option α)

instance : Monad Guarded where
  pure a := ⟨pure (some a)⟩
  bind x f := ⟨x.run >>= fun
    | some a => (f a).run
    | none => pure none⟩

instance : MonadLift Action Guarded := ⟨fun x => ⟨x >>= fun a => pure (some a)⟩⟩

def value {α : Type} (v : Option α) : Guarded α := ⟨pure v⟩

def window (d : Desk) (weekday : UInt8) : Guarded Span := do
  Action.check (Rules.weekday weekday)
  match ← value (weekdayBounds weekday d.now d.zone) with
  | some w => return w
  | none => Action.fail (.invalidWeekday weekday)

def ensureRoom (queue : Id) (w : Span) (timeslot : UInt32) (capacity : Nat) : Guarded Unit := do
  let rows ← Action.call (.atTimeslot queue w timeslot)
  let seats ← value (openSeats capacity rows)
  if hasRoom seats then return ()
  else Action.fail (.noOpenSlots timeslot capacity)

def claimTimeslot (d : Desk) (queue : Id) (weekday : UInt8) (timeslot : UInt32) (caller : Caller) : Guarded Slot := do
  Action.check (Rules.caller caller)
  let w ← window d weekday
  let (schedule, capacity) ← Desk.timeslotCapacity queue weekday timeslot
  let scheduledTime ← value (slotStart w timeslot schedule.duration)
  Action.check (Rules.notStarted scheduledTime d.now)
  Action.call (.claim queue w timeslot capacity caller.email)

def signup (d : Desk) (queue : Id) (weekday : UInt8) (timeslot : UInt32) (draft : Draft) (caller : Caller) :
    Guarded Slot := do
  Action.check (Rules.caller caller)
  let details ← Action.check (Rules.details draft)
  let w ← window d weekday
  let (schedule, capacity) ← Desk.timeslotCapacity queue weekday timeslot
  ensureRoom queue w timeslot capacity
  let start ← value (exclusiveFrom d.now schedule.duration)
  match ← Action.call (.claimedBy queue ⟨start, farFuture⟩ caller.email) with
  | existing :: _ => Action.fail (.alreadyBooked existing.id)
  | [] =>
    let scheduledTime ← value (slotStart w timeslot schedule.duration)
    Action.check (Rules.notStarted scheduledTime d.now)
    let id ← Action.newId
    Action.call (.insert ⟨id, queue, timeslot, scheduledTime, schedule.duration, some caller.email, details⟩
      ⟨w, capacity, some start⟩)

def move (d : Desk) (appointment : Id) (current : Slot) (timeslot : UInt32) (details : Details) (caller : Caller) :
    Guarded Slot := do
  let day := d.today
  let some w ← value (weekdayBounds day d.now d.zone) | Action.fail (.invalidWeekday day)
  let (schedule, capacity) ← Desk.timeslotCapacity current.queue day timeslot
  let scheduledTime ← value (slotStart w timeslot current.duration)
  let fits ← value (fitsDay w scheduledTime current.duration)
  if !fits then Action.fail (.noSuchTimeslot timeslot schedule.timeslots)
  else
    Action.check (Rules.notStarted scheduledTime d.now)
    ensureRoom current.queue w timeslot capacity
    let id ← Action.newId
    let created ← Action.call (.insert
      ⟨id, current.queue, timeslot, scheduledTime, current.duration, some caller.email, details⟩ ⟨w, capacity, none⟩)
    match ← Action.attempt (.release appointment caller.email) with
    | .ok _ => return created
    | .error cause => Action.fail (.moveIncomplete created.id appointment cause)

def updateAppointment (d : Desk) (appointment : Id) (draft : Draft) (caller : Caller) : Guarded Update := do
  Action.check (Rules.caller caller)
  let current ← Action.call (.fetch appointment)
  if !current.isClaimed then Action.fail (.appointmentVacated appointment)
  else
    Action.check (Rules.owner current caller)
    let details ← Action.check (Rules.details draft)
    let timeslot := draft.timeslot.getD current.timeslot
    if timeslot = current.timeslot then
      Action.call (.edit appointment caller.email details)
      return .edited
    else return .moved (← move d appointment current timeslot details caller)

def updateSchedule (d : Desk) (queue : Id) (weekday : UInt8) (duration : UInt32) (capacities : Capacities)
    (caller : Caller) : Guarded Schedule := do
  Action.check (Rules.admin caller)
  let w ← window d weekday
  let schedule : Schedule := ⟨weekday, duration, capacities⟩
  let checked ← value (validate schedule)
  Action.check (checked.mapError .invalidSchedule)
  let rows ← Action.call (.within queue w)
  if !rows.isEmpty then Action.fail (.scheduleLocked rows.length)
  else
    Action.call (.replaceSchedule queue schedule w)
    return schedule

def submitSchedule (d : Desk) (queue : Id) (weekday : UInt8) (caller : Caller) (body : ScheduleBody) :
    Guarded Schedule := do
  let capacities ← Action.check ((Capacities.parse body.capacities).mapError .invalidSchedule)
  updateSchedule d queue weekday body.duration capacities caller

def missingSeats (d : Desk) (schedule : Schedule) (w : Span) (rows : List Slot) : Option (List (UInt32 × Instant)) := do
  let seats ← schedule.capacities.toList.mapM fun (timeslot, capacity) => do
    let start ← slotStart w timeslot schedule.duration
    if start < d.now then return []
    else
      let present := rows.countP fun row => row.timeslot = timeslot
      return List.replicate (capacity - present) (timeslot, start)
  return seats.flatten

def publishOpenSlots (d : Desk) (queue : Id) (weekday : UInt8) (template : Draft) (caller : Caller) : Guarded Nat := do
  Action.check (Rules.admin caller)
  let details ← Action.check (Rules.details template)
  let w ← window d weekday
  let schedule ← Desk.requireSchedule queue weekday
  let rows ← Action.call (.within queue w)
  let missing ← value (missingSeats d schedule w rows)
  let slots ← Action.mintEach
    (fun (timeslot, start) id => ⟨id, queue, timeslot, start, schedule.duration, none, details⟩) missing
  Action.call (.publish queue slots)

def myAppointments (d : Desk) (queue : Id) (weekday : UInt8) (caller : Caller) : Guarded (List Slot) := do
  Action.check (Rules.caller caller)
  let w ← window d weekday
  Action.call (.claimedBy queue w caller.email)

def appointmentsForDay (d : Desk) (queue : Id) (weekday : UInt8) (caller : Caller) : Guarded (List Slot) := do
  if caller.admin then
    let w ← window d weekday
    Action.call (.within queue w)
  else myAppointments d queue weekday caller

def timeslotAvailability (d : Desk) (queue : Id) (weekday : UInt8) : Guarded (List Availability) := do
  let schedule ← Desk.scheduleForDay queue weekday
  let w ← window d weekday
  let rows ← Action.call (.within queue w)
  value (schedule.capacities.toList.mapM fun (timeslot, capacity) => do
    let start ← slotStart w timeslot schedule.duration
    let seats ← openSeats capacity (rows.filter fun row => row.timeslot = timeslot)
    return ⟨timeslot, start, capacity, seats⟩)

def respond {α : Type} (a : Guarded α) (present : α → Response) : Plan (Option Response) :=
  a.run.run.bind fun
    | .ok r => .done (r.map present)
    | .error e => .done (some (.ofError e))

/-- The plan of a request with all its arithmetic checked. -/
def dispatch (d : Desk) : Request → Plan (Option Response)
  | .appointmentsForDay queue weekday caller =>
    respond (appointmentsForDay d queue weekday caller) (Desk.presentList Slot.toJson)
  | .myAppointments queue weekday caller =>
    respond (myAppointments d queue weekday caller) (Desk.presentList Slot.toJson)
  | .schedule queue (some weekday) => respond (Desk.scheduleForDay queue weekday) fun s => .withBody .ok s.toJson
  | .schedule queue none => respond (Desk.schedules queue) (Desk.presentList Schedule.toJson)
  | .timeslotAvailability queue weekday =>
    respond (timeslotAvailability d queue weekday) (Desk.presentList Availability.toJson)
  | .claimTimeslot queue weekday timeslot caller =>
    respond (claimTimeslot d queue weekday timeslot caller) fun s => .withBody .created s.toJson
  | .signup queue weekday timeslot caller appointment =>
    respond (signup d queue weekday timeslot appointment caller) fun s => .withBody .created s.toJson
  | .updateAppointment id caller appointment =>
    respond (updateAppointment d id appointment caller) Desk.presentUpdate
  | .removeSignup id caller => respond (d.removeSignup id caller) Desk.presentRemoval
  | .updateSchedule queue weekday caller schedule =>
    respond (submitSchedule d queue weekday caller schedule) fun _ => .empty .noContent
  | .publishOpenSlots queue weekday caller template =>
    respond (publishOpenSlots d queue weekday template caller) fun n =>
      .withBody .created (.obj [("published", .nat n)])

end Checked

def Request.capacities? : Request → Option String
  | .updateSchedule _ _ _ body => some body.capacities
  | _ => none

/-- An answer as it is given where schedules were accepted and queues have no more rows than they may. -/
def Call.Bounded : (c : Call) → c.Answer → Prop
  | .scheduleFor _ _, .ok (some schedule) => schedule.validate = .ok ()
  | .within .., .ok rows => rows.length ≤ maxSlotsPerQueue
  | .atTimeslot .., .ok rows => rows.length ≤ maxSlotsPerQueue
  | _, _ => True

/-- Plans that make the same calls, whatever answers within those bounds they are given, and end in results that are
related. -/
inductive Plan.Alike {α β : Type} (R : α → β → Prop) : Plan α → Plan β → Prop
  | done {a : α} {b : β} (related : R a b) : Alike R (.done a) (.done b)
  | ask {c : Call} {p : c.Answer → Plan α} {q : c.Answer → Plan β} (rest : ∀ a, c.Bounded a → Alike R (p a) (q a)) :
      Alike R (.ask c p) (.ask c q)
  | mint {p : Id → Plan α} {q : Id → Plan β} (rest : ∀ id, Alike R (p id) (q id)) : Alike R (.mint p) (.mint q)

namespace Plan

variable {α β γ δ : Type}

theorem Alike.bind {R : α → β → Prop} {S : γ → δ → Prop} {p : Plan α} {q : Plan β} {f : α → Plan γ} {g : β → Plan δ}
    (alike : p.Alike R q) (next : ∀ a b, R a b → (f a).Alike S (g b)) : (p.bind f).Alike S (q.bind g) := by
  induction alike with
  | done related => exact next _ _ related
  | ask rest ih => exact .ask ih
  | mint rest ih => exact .mint ih

theorem Alike.refl (p : Plan α) : p.Alike Eq p := by
  induction p with
  | done a => exact .done rfl
  | ask c next ih => exact .ask fun a _ => ih a
  | mint next ih => exact .mint ih

theorem alike_map (f : α → β) (p : Plan α) : (f <$> p).Alike (fun b a => b = f a) p := by
  induction p with
  | done a => exact .done rfl
  | ask c next ih => exact .ask fun a _ => ih a
  | mint next ih => exact .mint ih

theorem Alike.answer? {f : β → α} {p : Plan α} {q : Plan β} (alike : p.Alike (fun a b => a = f b) q) :
    p.answer? = q.answer?.map f := by
  cases alike with
  | done related => exact congrArg some related
  | ask rest => rfl
  | mint rest => rfl

end Plan

theorem Schedule.capacity_le {s : Schedule} {timeslot : UInt32} {capacity : Nat}
    (seats : s.capacityAt timeslot = some capacity) : capacity ≤ 255 := by
  rw [capacityAt, Capacities.at?, Option.map_eq_some_iff] at seats
  obtain ⟨digit, _, rfl⟩ := seats
  exact Nat.le_trans (Nat.le_of_lt digit.isLt) (by decide)

theorem Plan.Alike.step {α β : Type} {R : α → β → Prop} {p : Plan α} {q : Plan β} (alike : p.Alike R q)
    {ids : Nat → Id} {faults : Faults} {s : Service}
    (bounded : ∀ c : Call, c.Bounded (s.store.answerWith faults c).1) :
    (p.step (Service.world ids faults) s).2 = (q.step (Service.world ids faults) s).2 ∧
      (p.step (Service.world ids faults) s).1.Alike R (q.step (Service.world ids faults) s).1 := by
  cases alike with
  | done related => exact ⟨rfl, .done related⟩
  | ask rest => exact ⟨rfl, rest _ (bounded _)⟩
  | mint rest => exact ⟨rfl, rest _⟩

namespace Checked

structure Follows {α : Type} (x : Guarded α) (y : Action α) : Prop where
  alike : Plan.Alike (fun a b => a = b.map some) (ExceptT.run x.run) (ExceptT.run y)

variable {α β : Type} {f : α → Guarded β} {g : α → Action β}

theorem follows_pure (b : β) : Follows (pure b) (pure b) := ⟨.done rfl⟩

theorem follows_fail (e : BookingError) : Follows (Action.fail e : Action β) (Action.fail e) := ⟨.done rfl⟩

theorem follows_bind {x : Guarded α} {y : Action α} (first : Follows x y) (next : ∀ a, Follows (f a) (g a)) :
    Follows (x >>= f) (y >>= g) := by
  refine ⟨first.alike.bind fun a b same => ?_⟩
  subst same
  cases b with
  | ok b => exact (next b).alike
  | error e => exact .done rfl

theorem follows_lift (y : Action α) : Follows y y := by
  constructor
  rw [← Plan.bind_done (ExceptT.run y)]
  refine (Plan.Alike.refl (ExceptT.run y)).bind fun a b same => ?_
  subst same
  cases a <;> exact .done rfl

theorem follows_check {r : Except BookingError α} (passed : ∀ a, r = .ok a → Follows (f a) (g a)) :
    Follows (liftM (Action.check r) >>= f) (Action.check r >>= g) := by
  cases r with
  | ok a => exact ⟨(passed a rfl).alike⟩
  | error e => exact ⟨.done rfl⟩

theorem follows_call {c : Call} {f : c.Result → Guarded β} {g : c.Result → Action β}
    (answered : ∀ a, c.Bounded (.ok a) → Follows (f a) (g a)) :
    Follows (liftM (Action.call c) >>= f) (Action.call c >>= g) := by
  refine ⟨.ask fun a bounded => ?_⟩
  cases a with
  | ok a => exact (answered a bounded).alike
  | error e => exact .done rfl

theorem follows_value {v : Option α} {a : α} {x : Action β} (fits : v = some a) (next : Follows (f a) x) :
    Follows (value v >>= f) x := by
  subst fits
  exact ⟨next.alike⟩

theorem follows_result {v : Option α} {a : α} (fits : v = some a) : Follows (value v) (pure a) := by
  subst fits
  exact ⟨.done rfl⟩

theorem follows_window {d : Desk} {weekday : UInt8} {f : Span → Guarded β} {g : Span → Action β}
    (shown : ∀ w, Bookings.weekdayBounds weekday d.now d.zone = some w → Follows (f w) (g w)) :
    Follows (window d weekday >>= f) (Action.check (d.window weekday) >>= g) := by
  unfold window Desk.window
  rw [weekdayBounds_eq_some]
  cases Rules.weekday weekday with
  | error e => exact ⟨.done rfl⟩
  | ok done =>
    cases bounds : Bookings.weekdayBounds weekday d.now d.zone with
    | none => exact ⟨.done rfl⟩
    | some w => exact ⟨(shown w bounds).alike⟩

theorem follows_requireSchedule {queue : Id} {weekday : UInt8} {f : Schedule → Guarded β} {g : Schedule → Action β}
    (stored : ∀ schedule, schedule.validate = .ok () → Follows (f schedule) (g schedule)) :
    Follows (liftM (Desk.requireSchedule queue weekday) >>= f) (Desk.requireSchedule queue weekday >>= g) := by
  refine ⟨.ask fun a bounded => ?_⟩
  cases a with
  | error e => exact .done rfl
  | ok found =>
    cases found with
    | none => exact .done rfl
    | some schedule => exact (stored schedule bounded).alike

theorem follows_scheduleForDay {queue : Id} {weekday : UInt8} {f : Schedule → Guarded β} {g : Schedule → Action β}
    (stored : ∀ schedule, schedule.validate = .ok () → Follows (f schedule) (g schedule)) :
    Follows (liftM (Desk.scheduleForDay queue weekday) >>= f) (Desk.scheduleForDay queue weekday >>= g) := by
  unfold Desk.scheduleForDay
  cases Rules.weekday weekday with
  | error e => exact ⟨.done rfl⟩
  | ok _ => exact ⟨(follows_requireSchedule stored).alike⟩

theorem follows_timeslotCapacity {queue : Id} {weekday : UInt8} {timeslot : UInt32} {f : Schedule × Nat → Guarded β}
    {g : Schedule × Nat → Action β}
    (stored : ∀ schedule capacity, schedule.validate = .ok () → schedule.capacityAt timeslot = some capacity →
      Follows (f (schedule, capacity)) (g (schedule, capacity))) :
    Follows (liftM (Desk.timeslotCapacity queue weekday timeslot) >>= f)
      (Desk.timeslotCapacity queue weekday timeslot >>= g) := by
  refine ⟨.ask fun a bounded => ?_⟩
  cases a with
  | error e => exact .done rfl
  | ok found =>
    cases found with
    | none => exact .done rfl
    | some schedule =>
      cases seats : schedule.capacityAt timeslot with
      | none =>
        simp only [Except.mapError, Plan.bind, ExceptT.bindCont, pure, ExceptT.pure, ExceptT.mk, seats]
        exact .done rfl
      | some capacity =>
        simp only [Except.mapError, Plan.bind, ExceptT.bindCont, pure, ExceptT.pure, ExceptT.mk, seats]
        exact (stored schedule capacity bounded seats).alike

theorem follows_ensureRoom {queue : Id} {w : Span} {timeslot : UInt32} {capacity : Nat} (digit : capacity ≤ 255) :
    Follows (ensureRoom queue w timeslot capacity) (Desk.ensureRoom queue w timeslot capacity) := by
  refine follows_call fun rows few => follows_value (openSeats_eq_some digit few) ?_
  split
  · exact follows_pure ()
  · exact follows_fail _

variable (d : Desk) (queue : Id) (weekday : UInt8) (timeslot : UInt32) (draft : Draft) (caller : Caller)

theorem follows_claimTimeslot :
    Follows (claimTimeslot d queue weekday timeslot caller) (d.claimTimeslot queue weekday timeslot caller) := by
  refine follows_bind (follows_lift _) fun _ => follows_window fun w bounds => ?_
  refine follows_timeslotCapacity fun schedule capacity valid seats => ?_
  have early := Schedule.lt_minutesPerDay valid (Schedule.lt_timeslots seats)
  refine follows_value (slotStart_eq_some bounds early schedule.duration) ?_
  exact follows_bind (follows_lift _) fun _ => follows_lift _

theorem follows_signup :
    Follows (signup d queue weekday timeslot draft caller) (d.signup queue weekday timeslot draft caller) := by
  refine follows_bind (follows_lift _) fun _ => follows_bind (follows_lift _) fun details => ?_
  refine follows_window fun w bounds => follows_timeslotCapacity fun schedule capacity valid seats => ?_
  have early := Schedule.lt_minutesPerDay valid (Schedule.lt_timeslots seats)
  refine follows_bind (follows_ensureRoom (Schedule.capacity_le seats)) fun _ => ?_
  refine follows_value (exclusiveFrom_eq_some (representable_of_bounds bounds) schedule) ?_
  refine follows_bind (follows_lift _) fun upcoming => ?_
  cases upcoming with
  | cons existing _ => exact follows_fail _
  | nil =>
    refine follows_value (slotStart_eq_some bounds early schedule.duration) ?_
    exact follows_bind (follows_lift _) fun _ => follows_bind (follows_lift _) fun id => follows_lift _

theorem follows_move (appointment : Id) (current : Slot) (details : Details) :
    Follows (move d appointment current timeslot details caller)
      (d.move appointment current timeslot details caller) := by
  unfold Desk.move
  refine follows_value (weekdayBounds_eq_some d.today d.now d.zone) ?_
  dsimp only
  cases bounds : Bookings.weekdayBounds d.today d.now d.zone with
  | none => exact follows_fail _
  | some w =>
    refine follows_timeslotCapacity fun schedule capacity valid seats => ?_
    have early := Schedule.lt_minutesPerDay valid (Schedule.lt_timeslots seats)
    refine follows_value (slotStart_eq_some bounds early current.duration) ?_
    refine follows_value (fitsDay_eq_some bounds early current.duration) ?_
    dsimp only
    split
    · exact follows_fail _
    · refine follows_bind (follows_lift _) fun _ => ?_
      refine follows_bind (follows_ensureRoom (Schedule.capacity_le seats)) fun _ => ?_
      refine follows_bind (follows_lift _) fun id => follows_bind (follows_lift _) fun created => ?_
      refine follows_bind (follows_lift _) fun released => ?_
      cases released with
      | ok _ => exact follows_pure created
      | error cause => exact follows_fail _

theorem follows_updateAppointment (appointment : Id) :
    Follows (updateAppointment d appointment draft caller) (d.updateAppointment appointment draft caller) := by
  refine follows_bind (follows_lift _) fun _ => follows_bind (follows_lift _) fun current => ?_
  dsimp only
  split
  · exact follows_fail _
  · refine follows_bind (follows_lift _) fun _ => follows_bind (follows_lift _) fun details => ?_
    split
    · exact follows_bind (follows_lift _) fun _ => follows_pure _
    · exact follows_bind (follows_move d _ caller appointment current details) fun created => follows_pure _

theorem follows_updateSchedule (duration : UInt32) {capacities : Capacities} (few : capacities.size < 2 ^ 32) :
    Follows (updateSchedule d queue weekday duration capacities caller)
      (d.updateSchedule queue weekday duration capacities caller) := by
  refine follows_bind (follows_lift _) fun _ => follows_window fun w _ => ?_
  refine follows_value (validate_eq_some (s := ⟨weekday, duration, capacities⟩) few) ?_
  refine follows_bind (follows_lift _) fun _ => follows_bind (follows_lift _) fun rows => ?_
  split
  · exact follows_fail _
  · exact follows_bind (follows_lift _) fun _ => follows_pure _

theorem follows_submitSchedule {body : ScheduleBody} (short : body.capacities.length < 2 ^ 32) :
    Follows (submitSchedule d queue weekday caller body) (d.submitSchedule queue weekday caller body) := by
  refine follows_check fun capacities parsed => follows_updateSchedule d queue weekday caller body.duration ?_
  cases read : Capacities.parse body.capacities with
  | error e =>
    rw [read] at parsed
    cases parsed
  | ok c =>
    rw [read] at parsed
    cases parsed
    rw [Capacities.size_of_parse read]
    exact short

theorem mapM_eq_some {α β : Type} {f : α → Option β} {g : α → β} {l : List α}
    (each : ∀ a ∈ l, f a = some (g a)) : l.mapM f = some (l.map g) := by
  induction l with
  | nil => rfl
  | cons a l ih =>
    obtain ⟨first, rest⟩ := List.forall_mem_cons.mp each
    rw [List.mapM_cons, first, ih rest]
    rfl

variable {d queue weekday} {schedule : Schedule} {w : Span}

theorem missingSeats_eq_some (bounds : Bookings.weekdayBounds weekday d.now d.zone = some w)
    (valid : schedule.validate = .ok ()) (rows : List Slot) :
    missingSeats d schedule w rows = some (d.missingSeats schedule w rows) := by
  unfold missingSeats Desk.missingSeats
  rw [mapM_eq_some (g := fun entry => if schedule.startOf w entry.1 < d.now then [] else
    List.replicate (entry.2 - rows.countP fun row => row.timeslot = entry.1) (entry.1, schedule.startOf w entry.1))]
  · rfl
  · rintro ⟨timeslot, capacity⟩ listed
    have seats := (Capacities.mem_toList (Schedule.size_le valid)).mp listed
    have early := Schedule.lt_minutesPerDay valid (Schedule.lt_timeslots seats)
    dsimp only
    rw [slotStart_eq_some bounds early schedule.duration, Option.bind_eq_bind, Option.bind_some, Schedule.startOf]
    split <;> rfl

variable (d queue weekday) in
theorem follows_publishOpenSlots (template : Draft) :
    Follows (publishOpenSlots d queue weekday template caller)
      (d.publishOpenSlots queue weekday template caller) := by
  refine follows_bind (follows_lift _) fun _ => follows_bind (follows_lift _) fun details => ?_
  refine follows_window fun w bounds => follows_requireSchedule fun schedule valid => ?_
  refine follows_bind (follows_lift _) fun rows => follows_value (missingSeats_eq_some bounds valid rows) ?_
  exact follows_bind (follows_lift _) fun slots => follows_lift _

variable (d queue weekday) in
theorem follows_myAppointments :
    Follows (myAppointments d queue weekday caller) (d.myAppointments queue weekday caller) :=
  follows_bind (follows_lift _) fun _ => follows_window fun _ _ => follows_lift _

variable (d queue weekday) in
theorem follows_appointmentsForDay :
    Follows (appointmentsForDay d queue weekday caller) (d.appointmentsForDay queue weekday caller) := by
  unfold appointmentsForDay Desk.appointmentsForDay
  split
  · exact follows_window fun _ _ => follows_lift _
  · exact follows_myAppointments d queue weekday caller

variable (d queue weekday) in
theorem follows_timeslotAvailability :
    Follows (timeslotAvailability d queue weekday) (d.timeslotAvailability queue weekday) := by
  refine follows_scheduleForDay fun schedule valid => follows_window fun w bounds => ?_
  refine follows_call fun rows few => follows_result (mapM_eq_some ?_)
  rintro ⟨timeslot, capacity⟩ listed
  have seats := (Capacities.mem_toList (Schedule.size_le valid)).mp listed
  have early := Schedule.lt_minutesPerDay valid (Schedule.lt_timeslots seats)
  have fewer : (rows.filter fun row => row.timeslot = timeslot).length ≤ maxSlotsPerQueue :=
    Nat.le_trans (List.length_filter_le _ rows) few
  dsimp only
  rw [slotStart_eq_some bounds early schedule.duration, Option.bind_eq_bind, Option.bind_some,
    openSeats_eq_some (Schedule.capacity_le seats) fewer]
  rfl

theorem alike_respond {x : Guarded α} {y : Action α} (follows : Follows x y) (present : α → Response) :
    (respond x present).Alike (fun a b => a = some b) (Desk.respond y present) := by
  refine follows.alike.bind fun a b same => ?_
  subst same
  cases b <;> exact .done rfl

theorem alike_dispatch {r : Request} (short : ∀ text ∈ r.capacities?, text.length < 2 ^ 32) :
    (dispatch d r).Alike (fun a b => a = some b) (d.dispatch r) := by
  cases r with
  | appointmentsForDay queue weekday caller => exact alike_respond (follows_appointmentsForDay d queue weekday caller) _
  | myAppointments queue weekday caller => exact alike_respond (follows_myAppointments d queue weekday caller) _
  | schedule queue weekday =>
    cases weekday with
    | some weekday => exact alike_respond (follows_lift _) _
    | none => exact alike_respond (follows_lift _) _
  | timeslotAvailability queue weekday => exact alike_respond (follows_timeslotAvailability d queue weekday) _
  | claimTimeslot queue weekday timeslot caller =>
    exact alike_respond (follows_claimTimeslot d queue weekday timeslot caller) _
  | signup queue weekday timeslot caller draft =>
    exact alike_respond (follows_signup d queue weekday timeslot draft caller) _
  | updateAppointment id caller draft => exact alike_respond (follows_updateAppointment d draft caller id) _
  | removeSignup id caller => exact alike_respond (follows_lift _) _
  | updateSchedule queue weekday caller body =>
    exact alike_respond (follows_submitSchedule d queue weekday caller (short _ rfl)) _
  | publishOpenSlots queue weekday caller template =>
    exact alike_respond (follows_publishOpenSlots d queue weekday caller template) _

end Checked

namespace Store

variable {s : Store} {zone : Zone} {used : List Id}

theorem length_within_le (consistent : s.register.Consistent used) (queue : Id) (w : Span) :
    (s.register.within queue w).length ≤ maxSlotsPerQueue := by
  rw [Register.within_eq, Queue.within_eq_filter (consistent.filed queue).sorted]
  exact Nat.le_trans (List.length_filter_le _ _) (consistent.bounded queue)

theorem length_atTimeslot_le (consistent : s.register.Consistent used) (queue : Id) (w : Span) (timeslot : UInt32) :
    (s.register.atTimeslot queue w timeslot).length ≤ maxSlotsPerQueue := by
  rw [Register.atTimeslot_eq, Queue.atTimeslot, ← Register.within_eq]
  exact Nat.le_trans (List.length_filter_le _ _) (length_within_le consistent queue w)

theorem length_listed_le (consistent : s.register.Consistent used) (faults : Faults) (c : Call) :
    (c.listed (s.answerWith faults c).1).length ≤ maxSlotsPerQueue := by
  refine Nat.le_trans (s.listed_answerWith faults c).length_le ?_
  cases c with
  | within queue w => exact length_within_le consistent queue w
  | atTimeslot queue w timeslot => exact length_atTimeslot_le consistent queue w timeslot
  | claimedBy queue w email =>
    show (s.register.claimedBy queue w email).length ≤ maxSlotsPerQueue
    rw [Register.claimedBy_eq, Queue.claimedBy, ← Register.within_eq]
    exact Nat.le_trans (List.length_filter_le _ _) (length_within_le consistent queue w)
  | _ => exact Nat.zero_le _

theorem bounded_answerWith (consistent : s.register.Consistent used) (sound : s.register.Sound zone)
    (faults : Faults) (c : Call) : c.Bounded (s.answerWith faults c).1 := by
  cases c with
  | scheduleFor queue weekday =>
    have credible := credible_answerWith sound faults (.scheduleFor queue weekday)
    cases answered : (s.answerWith faults (.scheduleFor queue weekday)).1 with
    | error e => exact True.intro
    | ok found =>
      rw [answered] at credible
      cases found <;> exact credible
  | within queue w =>
    have few := length_listed_le consistent faults (.within queue w)
    generalize (s.answerWith faults (.within queue w)).1 = answer at few ⊢
    cases answer with
    | ok rows => exact few
    | error e => exact True.intro
  | atTimeslot queue w timeslot =>
    have few := length_listed_le consistent faults (.atTimeslot queue w timeslot)
    generalize (s.answerWith faults (.atTimeslot queue w timeslot)).1 = answer at few ⊢
    cases answer with
    | ok rows => exact few
    | error e => exact True.intro
  | _ => exact True.intro

end Store

namespace Service

variable {ids : Nat → Id} {zone : Zone} {s : Service} {plans : List (Plan Response)}

theorem Reached.bounded (reached : Reached ids zone s plans) (distinct : ((List.range s.minted).map ids).Nodup)
    (faults : Faults) (c : Call) : c.Bounded (s.store.answerWith faults c).1 := by
  obtain ⟨used, consistent, lawful⟩ := reached.sound distinct
  exact Store.bounded_answerWith consistent lawful.sound faults c

theorem Reached.alike {R : α → Response → Prop} {others : List (Plan α)} {faults : Faults} {turns : List Nat}
    (reached : Reached ids zone s plans)
    (distinct : ((List.range (Plan.interleave (world ids faults) turns plans s).2.minted).map ids).Nodup)
    (alike : ∀ i : Nat, Option.Rel (Plan.Alike R) others[i]? plans[i]?) :
    (Plan.interleave (world ids faults) turns others s).2 = (Plan.interleave (world ids faults) turns plans s).2 ∧
      ∀ i : Nat, Option.Rel (Plan.Alike R) (Plan.interleave (world ids faults) turns others s).1[i]?
        (Plan.interleave (world ids faults) turns plans s).1[i]? := by
  induction turns generalizing s plans others with
  | nil => exact ⟨rfl, alike⟩
  | cons i turns ih =>
    have same := alike i
    rw [Plan.interleave] at distinct
    rw [Plan.interleave, Plan.interleave]
    cases chosen : plans[i]? with
    | none =>
      rw [chosen] at same distinct
      cases other : others[i]? with
      | some q =>
        rw [other] at same
        cases same
      | none => exact ih reached distinct alike
    | some p =>
      rw [chosen] at same distinct
      cases other : others[i]? with
      | none =>
        rw [other] at same
        cases same
      | some q =>
        rw [other] at same
        cases same with
        | some same =>
          -- A reached state answers within the bounds, so both plans go on from the same answer.
          obtain ⟨state, stepped⟩ := same.step (reached.bounded (nodup_before_turns distinct) faults)
          dsimp only
          rw [state]
          refine ih (reached.stepped chosen faults) distinct fun j => ?_
          by_cases own : i = j
          · subst own
            rw [List.getElem?_set_self (List.getElem?_eq_some_iff.mp other).1,
              List.getElem?_set_self (List.getElem?_eq_some_iff.mp chosen).1]
            exact .some stepped
          · rw [List.getElem?_set_ne own, List.getElem?_set_ne own]
            exact alike j

/-- Requests that arrive while others are under way come, whatever turns they take, to the same answers and the same
state where all their arithmetic is checked: none of it leaves its words. -/
theorem requests_fit_words (reached : Reached ids zone s plans) {arrivals : List (Instant × Request)}
    (short : ∀ a ∈ arrivals, ∀ text ∈ a.2.capacities?, text.length < 2 ^ 32) (faults : Faults) (turns : List Nat)
    (distinct : ((List.range (Plan.interleave (world ids faults) turns
      (plans ++ arrivals.map fun a => (Desk.mk zone a.1).dispatch a.2) s).2.minted).map ids).Nodup) :
    let plain := Plan.interleave (world ids faults) turns
      (plans ++ arrivals.map fun a => (Desk.mk zone a.1).dispatch a.2) s
    let checked := Plan.interleave (world ids faults) turns
      (plans.map (some <$> ·) ++ arrivals.map fun a => Checked.dispatch (Desk.mk zone a.1) a.2) s
    checked.2 = plain.2 ∧ checked.1.map Plan.answer? = plain.1.map (fun p => p.answer?.map some) ∧
      ∀ queue w timeslot (capacity : UInt8),
        Checked.openSeats capacity.toNat (plain.2.store.register.atTimeslot queue w timeslot) =
          some (openSeats capacity.toNat (plain.2.store.register.atTimeslot queue w timeslot)) := by
  intro plain checked
  have each : ∀ i : Nat, Option.Rel (Plan.Alike fun a b => a = some b)
      (plans.map (some <$> ·) ++ arrivals.map fun a => Checked.dispatch (Desk.mk zone a.1) a.2)[i]?
      (plans ++ arrivals.map fun a => (Desk.mk zone a.1).dispatch a.2)[i]? := by
    intro i
    by_cases earlier : i < plans.length
    · rw [List.getElem?_append_left (by rw [List.length_map]; exact earlier), List.getElem?_append_left earlier,
        List.getElem?_map, List.getElem?_eq_getElem earlier]
      exact .some (Plan.alike_map some _)
    · rw [List.getElem?_append_right (by rw [List.length_map]; omega), List.getElem?_append_right (by omega),
        List.length_map, List.getElem?_map, List.getElem?_map]
      cases arrived : arrivals[i - plans.length]? with
      | none => exact .none
      | some a => exact .some (Checked.alike_dispatch (short a (List.mem_of_getElem? arrived)))
  have arrived := reached.arrivals arrivals
  obtain ⟨state, alike⟩ := arrived.alike distinct each
  obtain ⟨used, consistent, _⟩ := (arrived.interleave faults turns).sound distinct
  refine ⟨state, List.ext_getElem? fun i => ?_, fun queue w timeslot capacity => ?_⟩
  · have same : Option.Rel _ checked.1[i]? plain.1[i]? := alike i
    rw [List.getElem?_map, List.getElem?_map]
    generalize checked.1[i]? = q, plain.1[i]? = p at same
    cases same with
    | none => rfl
    | some same => exact congrArg some same.answer?
  · exact Checked.openSeats_eq_some (Nat.le_of_lt_succ capacity.toNat_lt)
      (Store.length_atTimeslot_le consistent queue w timeslot)

def longDay : List (Instant × Request) :=
  [(1700006400000, .updateSchedule (Id.ofNat 7) 3 ⟨"staff@x.edu", true⟩ ⟨60, "211111111111111111111111"⟩),
    (1700006400000, .timeslotAvailability (Id.ofNat 7) 3),
    (1700006400000, .signup (Id.ofNat 7) 3 23 ⟨"ada@x.edu", false⟩
      ⟨none, some "Ada", some "limits", some "room 1", none, none⟩)]

theorem requests_fit_words_longDay :
    let ids := fun n => Id.ofNat (n + 1)
    let turns := List.replicate 4 0 ++ List.replicate 4 1 ++ List.replicate 8 2
    let plain := Plan.interleave (world ids noFaults) turns
      (longDay.map fun a => (Desk.mk Zone.utc a.1).dispatch a.2) (start {})
    let checked := Plan.interleave (world ids noFaults) turns
      (longDay.map fun a => Checked.dispatch (Desk.mk Zone.utc a.1) a.2) (start {})
    plain.1.map (fun p => p.answer?.map Response.status) = [some 204, some 200, some 201] ∧
      checked.1.map Plan.answer? = plain.1.map (fun p => p.answer?.map some) := by
  intro ids turns plain checked
  have started : Reached ids Zone.utc (start {}) [] := .started rfl
  have fits := @requests_fit_words ids Zone.utc (start {}) [] started longDay (by decide +kernel) noFaults turns
    (by decide +kernel)
  exact ⟨by decide +kernel, fits.2.1⟩

end Service

end Bookings
