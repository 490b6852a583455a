import Bookings.Proofs.Desk.Advice
import Bookings.Proofs.Desk.Reached
import Bookings.Proofs.Desk.Retry

namespace Bookings

namespace Capacities

theorem mem_toList {c : Capacities} (small : c.size ≤ minutesPerDay) {timeslot : UInt32} {capacity : Nat} :
    (timeslot, capacity) ∈ c.toList ↔ c.at? timeslot = some capacity := by
  rw [toList, List.mem_map, at?, Option.map_eq_some_iff]
  constructor
  · rintro ⟨⟨digit, i⟩, listed, same⟩
    cases same
    have bound := (List.mem_zipIdx' listed).1
    have low : (UInt32.ofNat i).toNat = i := UInt32.toNat_ofNat_of_lt' (by
      rw [size, minutesPerDay] at small
      rw [UInt32.size]
      omega)
    rw [low]
    exact ⟨digit, (List.mem_zipIdx_iff_getElem?.mp listed), rfl⟩
  · rintro ⟨digit, found, rfl⟩
    exact ⟨(digit, timeslot.toNat), List.mem_zipIdx_iff_getElem?.mpr found, Prod.ext UInt32.ofNat_toNat rfl⟩

end Capacities

namespace Schedule

theorem size_le {s : Schedule} (valid : s.validate = .ok ()) : s.capacities.size ≤ minutesPerDay := by
  obtain ⟨_, positive, fits⟩ := s.validate_eq_ok_iff.mp valid
  have nonzero : 0 < s.duration.toNat := Nat.pos_of_ne_zero fun zero => positive (UInt32.toNat_inj.mp zero)
  exact Nat.le_trans (Nat.le_mul_of_pos_right _ nonzero) fits

def shown (s : Schedule) (w : Span) (taken : UInt32 → Nat) : List Availability :=
  s.capacities.toList.map fun (timeslot, capacity) =>
    ⟨timeslot, s.startOf w timeslot, capacity, capacity - taken timeslot⟩

theorem mem_shown {s : Schedule} (valid : s.validate = .ok ()) {w : Span} {taken : UInt32 → Nat}
    {entry : Availability} :
    entry ∈ s.shown w taken ↔ ∃ timeslot capacity, s.capacityAt timeslot = some capacity ∧
      entry = ⟨timeslot, s.startOf w timeslot, capacity, capacity - taken timeslot⟩ := by
  rw [shown, List.mem_map]
  constructor
  · rintro ⟨⟨timeslot, capacity⟩, listed, rfl⟩
    exact ⟨timeslot, capacity, (Capacities.mem_toList (size_le valid)).mp listed, rfl⟩
  · rintro ⟨timeslot, capacity, seats, rfl⟩
    exact ⟨(timeslot, capacity), (Capacities.mem_toList (size_le valid)).mpr seats, rfl⟩

end Schedule

namespace Store

theorem claimedBy_eq_nil {s : Store} {queue : Id} {start : Instant} {email : String}
    (sorted : (s.register.content queue).Sorted)
    (early : ∀ row ∈ s.register.rows queue, row.student = some email → row.scheduledTime < start) :
    s.register.claimedBy queue ⟨start, farFuture⟩ email = [] := by
  rw [Register.claimedBy_eq, Queue.claimedBy, Queue.within_eq_filter sorted, List.filter_eq_nil_iff]
  intro row inside theirs
  obtain ⟨member, within⟩ := List.mem_filter.mp inside
  have late := ((Span.contains_iff _ _).mp within).1
  exact Int64.not_le.mpr (early row member (beq_iff_eq.mp theirs)) late

theorem answer_insert_free {s : Store} {slot : Slot} {guard : Guard} (working : s.journal.Working)
    (housed : (s.register.queue? slot.queue).isSome = true)
    (small : (s.register.rows slot.queue).length < maxSlotsPerQueue)
    (room : hasRoom (openSeats guard.capacity (s.register.atTimeslot slot.queue guard.window slot.timeslot)) = true)
    (free : s.register.conflict? slot guard = none) : ∃ t, s.answer (.insert slot guard) = (.ok slot, t) := by
  have decided : s.register.decide (.insert slot guard) = .record (.slotCreated slot) fun _ => .ok slot := by
    show s.register.decideInsert slot guard = _
    unfold Register.decideInsert
    rw [Register.slotCount_eq, if_neg (Nat.not_le.mpr small)]
    simp [room, free]
  obtain ⟨k, _, answered⟩ := answer_of_record working (prepare_insert housed) decided
  exact ⟨_, answered⟩

end Store

theorem Action.outcome_check {σ α : Type} (w : World σ) (s : σ) (r : Except BookingError α) :
    (check r).outcome w s = (r, s) := rfl

namespace Desk

variable {d : Desk} {ids : Nat → Id} {s : Service} {queue : Id} {weekday : UInt8}

theorem outcome_requireSchedule_stored (ids : Nat → Id) (s : Service) (queue : Id) (weekday : UInt8) :
    (requireSchedule queue weekday).outcome (Service.world ids Service.noFaults) s =
      ((s.store.register.schedule? queue weekday).elim (.error (.noSchedule queue weekday)) .ok, s) :=
  outcome_requireSchedule rfl

theorem window_of_bounds {w : Span} (bounds : weekdayBounds weekday d.now d.zone = some w) :
    Rules.weekday weekday = .ok () ∧ d.window weekday = .ok w := by
  have known : Rules.weekday weekday = .ok () := by
    rw [Rules.weekday, if_neg (UInt8.not_lt.mpr (weekday_le bounds))]
  refine ⟨known, ?_⟩
  rw [window, known, bounds]
  rfl

/-- The view of a weekday, by the schedule that the state has for it and the seats that are taken. -/
def view (d : Desk) (r : Register) (queue : Id) (weekday : UInt8) : Except BookingError (List Availability) := do
  Rules.weekday weekday
  match r.schedule? queue weekday with
  | none => .error (.noSchedule queue weekday)
  | some schedule =>
    let w ← d.window weekday
    return schedule.shown w (r.taken queue w.contains)

theorem outcome_timeslotAvailability (sorted : (s.store.register.content queue).Sorted) :
    (d.timeslotAvailability queue weekday).outcome (Service.world ids Service.noFaults) s =
      (d.view s.store.register queue weekday, s) := by
  unfold timeslotAvailability scheduleForDay view
  rw [Action.outcome_bind, Action.outcome_bind, Action.outcome_check]
  cases Rules.weekday weekday with
  | error e => rfl
  | ok known =>
    dsimp only
    rw [outcome_requireSchedule_stored]
    cases s.store.register.schedule? queue weekday with
    | none => rfl
    | some schedule =>
      dsimp only [Option.elim_some]
      rw [Action.outcome_bind, Action.outcome_check]
      cases d.window weekday with
      | error e => rfl
      | ok w =>
        have counted : ∀ timeslot, ((s.store.register.within queue w).filter fun row => row.timeslot = timeslot).countP
            Slot.isClaimed = s.store.register.taken queue w.contains timeslot := by
          intro timeslot
          rw [Register.within_eq]
          exact Queue.countP_atTimeslot timeslot sorted w
        show (Except.ok (schedule.capacities.toList.map _), s) = (Except.ok (schedule.capacities.toList.map _), s)
        simp only [openSeats, counted]

theorem view_eq_ok_iff {r : Register} {shown : List Availability} :
    d.view r queue weekday = .ok shown ↔ ∃ w schedule, weekdayBounds weekday d.now d.zone = some w ∧
      r.schedule? queue weekday = some schedule ∧ shown = schedule.shown w (r.taken queue w.contains) := by
  unfold view
  constructor
  · intro seen
    cases known : Rules.weekday weekday with
    | error e =>
      rw [known] at seen
      cases seen
    | ok _ =>
      rw [known] at seen
      cases stored : r.schedule? queue weekday with
      | none =>
        rw [stored] at seen
        cases seen
      | some schedule =>
        rw [stored] at seen
        cases window : d.window weekday with
        | error e =>
          rw [window] at seen
          cases seen
        | ok w =>
          rw [window] at seen
          cases seen
          exact ⟨w, schedule, window_eq_ok window, rfl, rfl⟩
  · rintro ⟨w, schedule, bounds, stored, rfl⟩
    obtain ⟨known, window⟩ := window_of_bounds bounds
    rw [known, stored, window]
    rfl

section

variable {timeslot : UInt32} {draft : Draft} {details : Details} {caller : Caller} {slot : Slot}

/-- What a signup that is granted has found, and what it has done. -/
structure SignedUp (d : Desk) (queue : Id) (weekday : UInt8) (timeslot : UInt32) (email : String) (r after : Register)
    (slot : Slot) (w : Span) (schedule : Schedule) (capacity : Nat) : Prop where
  bounds : weekdayBounds weekday d.now d.zone = some w
  stored : r.schedule? queue weekday = some schedule
  seats : schedule.capacityAt timeslot = some capacity
  ahead : d.now ≤ schedule.startOf w timeslot
  room : r.taken queue w.contains timeslot < capacity
  small : (r.rows queue).length < maxSlotsPerQueue
  early : ∀ row ∈ r.rows queue, row.student = some email → row.scheduledTime < farFuture →
    row.scheduledTime < d.exclusiveFrom schedule
  own : slot.queue = queue
  named : slot.timeslot = timeslot
  start : slot.scheduledTime = schedule.startOf w timeslot
  claimed : slot.student = some email
  result : after = r.apply (.slotCreated slot)

theorem ends_signup (d : Desk) (ids : Nat → Id) (weekday : UInt8) (timeslot : UInt32) (draft : Draft) (caller : Caller)
    (sorted : (s.store.register.content queue).Sorted) :
    (d.signup queue weekday timeslot draft caller).Ends ids Service.noFaults s fun answer t =>
      ∀ slot, answer = .ok slot → ∃ w schedule capacity,
        d.SignedUp queue weekday timeslot caller.email s.store.register t.store.register slot w schedule capacity := by
  refine (d.tells_signup queue weekday timeslot draft caller).ends ?_
  intro told answer t answers _ performs slot granted
  generalize s.coming ids t.minted = taken at performs
  cases performs with
  | refused quiet => contradiction
  | signed quiet bounds found ahead known texts =>
    rename_i id told w schedule capacity details a
    obtain ⟨⟨between, asked, rfl⟩, heard⟩ := answers.of_quiet quiet
    have stored := found.scheduled heard
    obtain ⟨e, rfl, _⟩ | ⟨rfl, changed⟩ := Store.insert_cases (Register.isSome_queue?_of_schedule? stored) asked
    · cases granted
    · cases granted
      obtain ⟨e, admitted, _⟩ := (Store.outcome_of_answerWith asked).applied rfl
      cases admitted with
      | insert small room free =>
        have left := (Queue.hasRoom_atTimeslot_iff timeslot sorted w capacity).mp room
        exact ⟨w, schedule, capacity, bounds, stored, found.seats, Rules.notStarted_eq_ok ahead, left, small,
          fun row member theirs near => Store.early_of_inserted asked rfl rfl sorted member theirs near,
          rfl, rfl, rfl, rfl, changed⟩

theorem signup_eq_ok (sorted : (s.store.register.content queue).Sorted)
    (granted : ((d.signup queue weekday timeslot draft caller).outcome (Service.world ids Service.noFaults) s).1 =
      .ok slot) :
    ∃ w schedule capacity, d.SignedUp queue weekday timeslot caller.email s.store.register
      ((d.signup queue weekday timeslot draft caller).outcome (Service.world ids Service.noFaults) s).2.store.register
      slot w schedule capacity := by
  have ended := d.ends_signup ids weekday timeslot draft caller sorted
  unfold Action.Ends at ended
  unfold Action.outcome at granted ⊢
  exact ended slot granted

theorem signup_of_room {w : Span} {schedule : Schedule} {capacity : Nat} (working : s.store.journal.Working)
    (sorted : (s.store.register.content queue).Sorted) (known : Rules.caller caller = .ok ())
    (texts : Rules.details draft = .ok details) (bounds : weekdayBounds weekday d.now d.zone = some w)
    (stored : s.store.register.schedule? queue weekday = some schedule)
    (seats : schedule.capacityAt timeslot = some capacity) (ahead : d.now ≤ schedule.startOf w timeslot)
    (room : s.store.register.taken queue w.contains timeslot < capacity)
    (small : (s.store.register.rows queue).length < maxSlotsPerQueue)
    (early : ∀ row ∈ s.store.register.rows queue, row.student = some caller.email →
      row.scheduledTime < d.exclusiveFrom schedule) :
    ∃ slot, ((d.signup queue weekday timeslot draft caller).outcome (Service.world ids Service.noFaults) s).1 =
      .ok slot := by
  have free := Store.claimedBy_eq_nil sorted early
  have asked : s.store.answerWith Service.noFaults
      (.claimedBy queue ⟨d.exclusiveFrom schedule, farFuture⟩ caller.email) = (.ok [], s.store) := by
    rw [← free]
    rfl
  have waiting : Rules.notStarted (schedule.startOf w timeslot) d.now = .ok () := by
    rw [Rules.notStarted, if_neg (Int64.not_lt.mpr ahead)]
  have seated := (Queue.hasRoom_atTimeslot_iff timeslot sorted w capacity).mpr room
  rw [← Register.atTimeslot_eq] at seated
  have alone : (s.store.register.claimedBy queue ⟨d.exclusiveFrom schedule, farFuture⟩ caller.email).head? = none := by
    rw [free]
    rfl
  obtain ⟨t, inserted⟩ : ∃ t, s.store.answerWith Service.noFaults (.insert ⟨ids s.minted, queue, timeslot,
      schedule.startOf w timeslot, schedule.duration, some caller.email, details⟩
        ⟨w, capacity, some (d.exclusiveFrom schedule)⟩) = (.ok _, t) :=
    Store.answer_insert_free working (Register.isSome_queue?_of_schedule? stored) small seated alone
  show (d.signup queue weekday timeslot draft caller).Ends ids Service.noFaults s fun answer _ =>
    ∃ slot, answer = .ok slot
  unfold signup
  refine Action.ends_check known (Action.ends_check texts (Action.ends_check (window_of_bounds bounds).2 ?_))
  refine ends_timeslotCapacity stored seats ?_
  refine ends_ensureRoom sorted (fun full => absurd room (Nat.not_lt.mpr full)) fun _ => ?_
  refine Action.ends_call asked (Action.ends_check waiting (Action.ends_newId ?_))
  unfold Action.Ends
  rw [Action.run_call, inserted]
  exact ⟨_, rfl⟩

end

end Desk

namespace Register

theorem taken_slotCreated (r : Register) (slot : Slot) (queue : Id) (times : Instant → Bool) (timeslot : UInt32) :
    (r.apply (.slotCreated slot)).taken queue times timeslot =
      r.taken queue times timeslot + if queue = slot.queue ∧ slot.seated times timeslot = true then 1 else 0 := by
  by_cases own : queue = slot.queue
  · have grown := (r.content slot.queue).taken_insert times timeslot slot
    rw [own, taken, taken]
    simp only [true_and]
    rw [← grown]
    exact congrArg (fun q : Queue => q.taken times timeslot) (r.content_apply_self (.slotCreated slot))
  · rw [taken, r.content_apply_other (.slotCreated slot) own, if_neg fun both => own both.1]
    rfl

end Register

namespace Desk

variable {d : Desk} {r : Register} {queue : Id} {weekday : UInt8}

theorem view_congr {after : Register} (scheduled : after.schedule? queue weekday = r.schedule? queue weekday)
    (counted : ∀ w, weekdayBounds weekday d.now d.zone = some w →
      after.taken queue w.contains = r.taken queue w.contains) :
    d.view after queue weekday = d.view r queue weekday := by
  unfold view
  rw [scheduled]
  cases r.schedule? queue weekday with
  | none => rfl
  | some schedule =>
    cases window : d.window weekday with
    | error e => rfl
    | ok w =>
      have same := counted w (window_eq_ok window)
      cases Rules.weekday weekday with
      | error e => rfl
      | ok known => exact congrArg (fun taken => Except.ok (schedule.shown w taken)) same

variable {w : Span} {slot : Slot}

theorem view_other (bounds : weekdayBounds weekday d.now d.zone = some w) (own : slot.queue = queue)
    (inside : w.contains slot.scheduledTime = true) {otherQueue : Id} {otherDay : UInt8}
    (other : otherQueue ≠ queue ∨ otherDay ≠ weekday) :
    d.view (r.apply (.slotCreated slot)) otherQueue otherDay = d.view r otherQueue otherDay := by
  apply view_congr
  · rw [r.schedule?_apply fun _ _ same => Event.noConfusion same]
  · intro v bounds'
    funext timeslot
    rw [r.taken_slotCreated, if_neg, Nat.add_zero]
    rintro ⟨same, seated⟩
    rcases other with differs | differs
    · exact differs (same.trans own)
    · -- A time lies in the day of one weekday only.
      have day := (contains_iff_dayOf bounds _).mp inside
      have otherwise := (contains_iff_dayOf bounds' _).mp ((slot.seated_iff _ _).mp seated).2.2
      rw [day] at otherwise
      exact differs (d.zone.sundayOf_add_inj (weekday_le bounds) (weekday_le bounds') otherwise).1.symm

theorem view_own {schedule : Schedule} (bounds : weekdayBounds weekday d.now d.zone = some w)
    (stored : r.schedule? queue weekday = some schedule) (own : slot.queue = queue)
    (inside : w.contains slot.scheduledTime = true) (claimed : slot.isClaimed = true) :
    d.view (r.apply (.slotCreated slot)) queue weekday = .ok ((schedule.shown w (r.taken queue w.contains)).map
      fun entry => if entry.timeslot = slot.timeslot then { entry with seats := entry.seats - 1 } else entry) := by
  refine view_eq_ok_iff.mpr ⟨w, schedule, bounds, ?_, ?_⟩
  · rw [r.schedule?_apply fun _ _ same => Event.noConfusion same, stored]
  · rw [Schedule.shown, Schedule.shown, List.map_map]
    refine List.map_congr_left fun ⟨timeslot, capacity⟩ _ => ?_
    have seated : slot.seated w.contains timeslot = true ↔ timeslot = slot.timeslot := by
      rw [Slot.seated_iff]
      exact ⟨fun all => all.2.1.symm, fun same => ⟨claimed, same.symm, inside⟩⟩
    simp only [Function.comp_apply, r.taken_slotCreated, own, true_and, seated]
    split
    · rw [Int.natCast_succ, ← Int.sub_sub]
    · rfl

variable {after : Register} {timeslot : UInt32} {email : String} {schedule : Schedule} {capacity : Nat}

def ShowsSeat (d : Desk) (entries : List Availability) (timeslot : UInt32) : Prop :=
  ∃ entry ∈ entries, entry.timeslot = timeslot ∧ 1 ≤ entry.seats ∧ d.now ≤ entry.scheduledTime

def Idle (d : Desk) (r : Register) (queue : Id) (weekday : UInt8) (email : String) : Prop :=
  ∃ schedule, r.schedule? queue weekday = some schedule ∧
    ∀ row ∈ r.rows queue, row.student = some email → row.scheduledTime.toInt < d.now.toInt - schedule.durationMs

theorem signup_of_shown {ids : Nat → Id} {s : Service} {draft : Draft} {details : Details} {caller : Caller}
    (working : s.store.journal.Working) (sorted : (s.store.register.content queue).Sorted)
    (known : Rules.caller caller = .ok ()) (texts : Rules.details draft = .ok details)
    (bounds : weekdayBounds weekday d.now d.zone = some w)
    (stored : s.store.register.schedule? queue weekday = some schedule) (valid : schedule.validate = .ok ())
    (seat : d.ShowsSeat (schedule.shown w (s.store.register.taken queue w.contains)) timeslot)
    (idle : d.Idle s.store.register queue weekday caller.email)
    (small : (s.store.register.rows queue).length < maxSlotsPerQueue) :
    ∃ slot, ((d.signup queue weekday timeslot draft caller).outcome (Service.world ids Service.noFaults) s).1 =
      .ok slot := by
  obtain ⟨entry, listed, rfl, left, ahead⟩ := seat
  obtain ⟨found, same, early⟩ := idle
  cases stored.symm.trans same
  obtain ⟨timeslot, capacity, seats, rfl⟩ := (Schedule.mem_shown valid).mp listed
  have room : s.store.register.taken queue w.contains timeslot < capacity := by
    dsimp only at left
    omega
  refine signup_of_room working sorted known texts bounds stored seats ahead room small ?_
  intro row member theirs
  rw [Int64.lt_iff_toInt_lt, exclusiveFrom_toInt (representable_of_bounds bounds)]
  exact early row member theirs

theorem SignedUp.shows (signed : d.SignedUp queue weekday timeslot email r after slot w schedule capacity)
    (valid : schedule.validate = .ok ()) : d.ShowsSeat (schedule.shown w (r.taken queue w.contains)) timeslot := by
  have listed : ⟨timeslot, schedule.startOf w timeslot, capacity, capacity - r.taken queue w.contains timeslot⟩ ∈
      schedule.shown w (r.taken queue w.contains) :=
    (Schedule.mem_shown valid).mpr ⟨timeslot, capacity, signed.seats, rfl⟩
  refine ⟨_, listed, rfl, ?_, signed.ahead⟩
  have room := signed.room
  dsimp only
  omega

theorem SignedUp.idle (signed : d.SignedUp queue weekday timeslot email r after slot w schedule capacity)
    (lawful : r.Lawful d.zone) : d.Idle r queue weekday email := by
  refine ⟨schedule, signed.stored, fun row member theirs => ?_⟩
  have early := signed.early row member theirs (lawful.near queue row member)
  rw [Int64.lt_iff_toInt_lt, exclusiveFrom_toInt (representable_of_bounds signed.bounds)] at early
  exact early

theorem SignedUp.views (signed : d.SignedUp queue weekday timeslot email r after slot w schedule capacity)
    (valid : schedule.validate = .ok ()) :
    (∀ entry ∈ schedule.shown w (r.taken queue w.contains), entry.timeslot = timeslot →
        slot.scheduledTime = entry.scheduledTime) ∧
      d.view after queue weekday = .ok ((schedule.shown w (r.taken queue w.contains)).map fun entry =>
        if entry.timeslot = timeslot then { entry with seats := entry.seats - 1 } else entry) ∧
      ∀ otherQueue otherDay, otherQueue ≠ queue ∨ otherDay ≠ weekday →
        d.view after otherQueue otherDay = d.view r otherQueue otherDay := by
  have inside : w.contains slot.scheduledTime = true := by
    rw [signed.start]
    exact Schedule.contains_startOf valid signed.bounds (Schedule.lt_timeslots signed.seats)
  have claimed : slot.isClaimed = true := by rw [Slot.isClaimed, signed.claimed, Option.isSome_some]
  rw [signed.result, view_own signed.bounds signed.stored signed.own inside claimed, signed.named]
  refine ⟨fun entry listed same => ?_, rfl, fun _ _ other => view_other signed.bounds signed.own inside other⟩
  obtain ⟨_, _, _, rfl⟩ := (Schedule.mem_shown valid).mp listed
  cases same
  exact signed.start

end Desk

namespace Service

variable {ids : Nat → Id} {s : Service} {plans : List (Plan Response)}

/-- A signup is granted in a service that works if and only if the view of the weekday shows a seat at a timeslot that
has not started, the student holds no row that could still be going on, and the queue is not full. The row starts
when the view says, and then the view shows one seat less there; no other view changes. -/
theorem view_agrees_with_signup {d : Desk} {queue : Id} {weekday : UInt8} {timeslot : UInt32} {draft : Draft}
    {details : Details} {caller : Caller} (reached : Reached ids d.zone s plans)
    (distinct : ((List.range s.minted).map ids).Nodup) (working : s.store.journal.Working)
    (known : Rules.caller caller = .ok ()) (texts : Rules.details draft = .ok details) :
    let signup := (d.signup queue weekday timeslot draft caller).outcome (world ids noFaults) s
    let view := fun queue weekday t => ((d.timeslotAvailability queue weekday).outcome (world ids noFaults) t).1
    ((∃ slot, signup.1 = .ok slot) ↔ ∃ entries, view queue weekday s = .ok entries ∧ d.ShowsSeat entries timeslot ∧
      d.Idle s.store.register queue weekday caller.email ∧ (s.store.register.rows queue).length < maxSlotsPerQueue) ∧
    ∀ slot, signup.1 = .ok slot → ∃ entries, view queue weekday s = .ok entries ∧
      (∀ entry ∈ entries, entry.timeslot = timeslot → slot.scheduledTime = entry.scheduledTime) ∧
      view queue weekday signup.2 = .ok (entries.map fun entry =>
        if entry.timeslot = timeslot then { entry with seats := entry.seats - 1 } else entry) ∧
      ∀ otherQueue otherDay, otherQueue ≠ queue ∨ otherDay ≠ weekday →
        view otherQueue otherDay signup.2 = view otherQueue otherDay s := by
  dsimp only
  generalize ran : (d.signup queue weekday timeslot draft caller).outcome (world ids noFaults) s = signup
  obtain ⟨used, consistent, lawful⟩ := reached.sound distinct
  have sorted := consistent.formed.orderly.sorted
  have seen : ∀ {t : Service}, (∀ queue, (t.store.register.content queue).Sorted) → ∀ queue weekday,
      ((d.timeslotAvailability queue weekday).outcome (world ids noFaults) t).1 =
        d.view t.store.register queue weekday :=
    fun sorted queue weekday => congrArg Prod.fst (Desk.outcome_timeslotAvailability (sorted queue))
  have signed : ∀ slot, signup.1 = .ok slot → ∃ w schedule capacity, schedule.validate = .ok () ∧
      d.SignedUp queue weekday timeslot caller.email s.store.register signup.2.store.register slot w schedule
        capacity := by
    intro slot granted
    rw [← ran] at granted ⊢
    obtain ⟨w, schedule, capacity, signed⟩ := Desk.signup_eq_ok (sorted queue) granted
    exact ⟨w, schedule, capacity, lawful.sound.valid queue weekday schedule signed.stored, signed⟩
  refine ⟨⟨?_, ?_⟩, ?_⟩
  · rintro ⟨slot, granted⟩
    obtain ⟨w, schedule, capacity, valid, signed⟩ := signed slot granted
    have shown := Desk.view_eq_ok_iff.mpr ⟨w, schedule, signed.bounds, signed.stored, rfl⟩
    exact ⟨_, (seen sorted queue weekday).trans shown, signed.shows valid, signed.idle lawful, signed.small⟩
  · rintro ⟨entries, shown, seat, idle, small⟩
    obtain ⟨w, schedule, bounds, stored, rfl⟩ := Desk.view_eq_ok_iff.mp ((seen sorted queue weekday).symm.trans shown)
    rw [← ran]
    exact Desk.signup_of_shown working (sorted queue) known texts bounds stored
      (lawful.sound.valid queue weekday schedule stored) seat idle small
  · intro slot granted
    obtain ⟨w, schedule, capacity, valid, signed⟩ := signed slot granted
    have shown := Desk.view_eq_ok_iff.mpr ⟨w, schedule, signed.bounds, signed.stored, rfl⟩
    obtain ⟨starts, own, others⟩ := signed.views valid
    have sortedAfter : ∀ queue, (signup.2.store.register.content queue).Sorted := by
      rw [signed.result]
      exact Register.sorted_apply sorted _
    refine ⟨_, (seen sorted queue weekday).trans shown, starts, (seen sortedAfter queue weekday).trans own, ?_⟩
    intro otherQueue otherDay other
    rw [seen sortedAfter, seen sorted, others otherQueue otherDay other]

theorem view_agrees_with_signup_wednesday :
    let ids := fun n => Id.ofNat (n + 1)
    let d := Desk.mk Zone.utc 1700000120000
    let s := (start {}).visits ids Zone.utc (wednesday.take 3)
    let draft : Draft := { name := some "Bob", description := some "limits", location := some "room 1" }
    let view := fun s => ((d.timeslotAvailability (Id.ofNat 7) 3).outcome (world ids noFaults) s).1
    let signup := (d.signup (Id.ofNat 7) 3 1 draft ⟨"bob@x.edu", false⟩).outcome (world ids noFaults) s
    view s = .ok [⟨0, 1700006400000, 1, 1⟩, ⟨1, 1700008200000, 2, 1⟩] ∧ (∃ slot, signup.1 = .ok slot) ∧
      view signup.2 = .ok [⟨0, 1700006400000, 1, 1⟩, ⟨1, 1700008200000, 2, 0⟩] := by
  intro ids d s draft view signup
  have started : Reached ids Zone.utc (start {}) [] := .started rfl
  obtain ⟨plans, reached⟩ := started.visits (wednesday.take 3)
  have working : s.store.journal.Working := working_visits ⟨rfl, rfl⟩
  have agrees := @view_agrees_with_signup ids s plans d (Id.ofNat 7) 3 1 draft
    ⟨"Bob", "limits", "room 1", .zero, .zero⟩ ⟨"bob@x.edu", false⟩ reached (by decide +kernel) working
    (by decide +kernel) (by decide +kernel)
  have shown : view s = .ok [⟨0, 1700006400000, 1, 1⟩, ⟨1, 1700008200000, 2, 1⟩] := by decide +kernel
  have absent : ∀ row ∈ s.store.register.rows (Id.ofNat 7), row.student ≠ some "bob@x.edu" := by decide +kernel
  have idle : d.Idle s.store.register (Id.ofNat 7) 3 "bob@x.edu" := by
    obtain ⟨schedule, stored⟩ := Option.isSome_iff_exists.mp
      (show (s.store.register.schedule? (Id.ofNat 7) 3).isSome = true by decide +kernel)
    exact ⟨schedule, stored, fun row member theirs => absurd theirs (absent row member)⟩
  have granted := agrees.1.mpr ⟨_, shown, ⟨_, List.mem_cons_of_mem _ List.mem_cons_self, rfl, by decide, by decide⟩,
    idle, by decide +kernel⟩
  obtain ⟨slot, created⟩ := granted
  obtain ⟨entries, seen, _, after, _⟩ := agrees.2 slot created
  cases shown.symm.trans seen
  exact ⟨shown, ⟨slot, created⟩, after⟩

end Service

end Bookings
