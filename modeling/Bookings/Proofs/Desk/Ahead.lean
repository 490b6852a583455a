import Bookings.Proofs.Desk.Timely
import Bookings.Proofs.Store.Lifecycle

namespace Bookings

namespace Operation

def timeslot? : Operation → Option UInt32
  | .claimTimeslot _ _ timeslot _ => some timeslot
  | .signup _ _ timeslot _ _ => some timeslot
  | .updateAppointment _ draft _ => draft.timeslot
  | _ => none

def queue? : Operation → Option Id
  | .claimTimeslot queue _ _ _ => some queue
  | .signup queue _ _ _ _ => some queue
  | _ => none

def day? (d : Desk) : Operation → Option UInt8
  | .claimTimeslot _ weekday _ _ => some weekday
  | .signup _ weekday _ _ _ => some weekday
  | .updateAppointment .. => some d.today
  | _ => none

end Operation

theorem Queue.mem_atTimeslot {q : Queue} (sorted : q.Sorted) {w : Span} {timeslot : UInt32} {row : Slot} :
    row ∈ q.atTimeslot w timeslot ↔ row ∈ q.rows ∧ w.contains row.scheduledTime = true ∧ row.timeslot = timeslot := by
  rw [atTimeslot, within_eq_filter sorted]
  simp only [List.mem_filter, decide_eq_true_eq, and_assoc]

namespace Store

variable {s t : Store} {faults : Faults}

theorem inserted_row {new slot : Slot} {guard : Guard}
    (asked : s.answerWith faults (.insert new guard) = (.ok slot, t)) :
    slot = new ∧ new ∈ t.register.rows new.queue ∧ t.register.schedule? = s.register.schedule? ∧
      (s.register.WellFormed → s.register.Fresh [new.id] → t.register.WellFormed) := by
  have outcome := outcome_of_answerWith asked
  obtain ⟨named, same⟩ := outcome.of_insert
  refine ⟨named, ?_, outcome.keeps_schedules rfl, fun formed fresh => (formed.slotCreated fresh).of_same same⟩
  rw [same.rows, Register.rows_slotCreated, (Queue.rows_insert_perm _ new).mem_iff]
  exact List.mem_cons_self

theorem kept_by_release {id : Id} {email : String} {a : Except StoreError Bool}
    (asked : s.answerWith faults (.release id email) = (a, t)) (orderly : s.register.Orderly) :
    t.register.schedule? = s.register.schedule? ∧
      ∀ {queue row student}, row ∈ s.register.rows queue → row.student = some student →
        row ∈ t.register.rows queue ∨ row.id = id ∧ student = email ∧ a = .ok true ∧
          { row with student := none } ∈ t.register.rows queue := by
  have outcome := outcome_of_answerWith asked
  refine ⟨outcome.keeps_schedules rfl, fun member held => ?_⟩
  rcases (outcome.advances orderly).of_held member held with stays | ⟨_, same, _⟩ | ⟨same, vacant⟩
  · exact .inl stays
  · cases same
  · cases same
    exact .inr ⟨rfl, rfl, rfl, vacant⟩

theorem fetched_row {queue : Id} {row current : Slot} (formed : s.register.WellFormed) (member : row ∈ s.register.rows queue)
    (answered : (s.answerWith faults (.fetch row.id)).1 = .ok current) : ∃ student, current = { row with student } := by
  obtain ⟨home, slot, found, shown⟩ := fetch_shows answered
  rw [formed.resolve_of_mem member] at found
  cases found
  rcases shown with rfl | ⟨student, _, same⟩
  · exact ⟨_, rfl⟩
  · exact ⟨student, same⟩

theorem fetched_ne_fresh {id unused : Id} {current : Slot} (fresh : s.register.Fresh [unused])
    (answered : (s.answerWith faults (.fetch id)).1 = .ok current) : unused ≠ id := by
  obtain ⟨home, slot, found, _⟩ := fetch_shows answered
  obtain ⟨member, named⟩ := Queue.mem_of_slot? (Register.resolve_eq_ok found).2
  rw [← named]
  exact fun same => fresh.unused unused (List.mem_singleton.mpr rfl) home slot member same.symm

theorem rows_after_move {between : Store} {new created current : Slot} {guard : Guard} {id : Id} {email holder : String}
    {a : Except StoreError Bool} (formed : s.register.WellFormed) (fresh : s.register.Fresh [new.id])
    (fetched : (s.answerWith faults (.fetch id)).1 = .ok current)
    (inserted : s.answerWith faults (.insert new guard) = (.ok created, between))
    (released : between.answerWith faults (.release id email) = (a, t)) (claimed : new.student = some holder) :
    new ∈ t.register.rows new.queue ∧ t.register.schedule? = s.register.schedule? ∧
      ∀ {queue row student}, row ∈ s.register.rows queue → row.student = some student →
        row ∈ t.register.rows queue ∨ row.id = id ∧ student = email ∧ a = .ok true ∧
          { row with student := none } ∈ t.register.rows queue := by
  obtain ⟨_, present, schedules, grown⟩ := inserted_row inserted
  obtain ⟨same, kept⟩ := kept_by_release released (grown formed fresh).orderly
  have outcome := outcome_of_answerWith inserted
  have differs := fetched_ne_fresh fresh fetched
  refine ⟨(kept present claimed).resolve_right fun gone => differs gone.1, same.trans schedules, fun member held => ?_⟩
  rcases (outcome.advances formed.orderly).of_held member held with stays | ⟨_, same, _⟩ | ⟨same, _⟩
  · exact kept stays held
  · cases same
  · cases same

end Store

namespace Desk

/-- A row as a request gives it to its caller: it is found in the state, is the caller's, and starts when and where the
request says, in the window of the weekday. Only a claim, which takes a row that is there, may give one that has started,
and only where such a row is shorter than the timeslots of the weekday's present schedule. -/
structure Grants (d : Desk) (op : Operation) (r : Register) (slot : Slot) (weekday : UInt8) (w : Span)
    (schedule : Schedule) : Prop where
  stored : r.resolve slot.id = .ok (slot.queue, slot)
  claimed : slot.student = some op.caller.email
  timeslot : op.timeslot? = some slot.timeslot
  queue : ∀ queue, op.queue? = some queue → slot.queue = queue
  requested : op.day? d = some weekday
  bounds : weekdayBounds weekday d.now d.zone = some w
  inside : w.contains slot.scheduledTime = true
  scheduled : r.schedule? slot.queue weekday = some schedule
  ahead : d.now ≤ slot.scheduledTime ∨ op.claims = true ∧ slot.duration < schedule.duration

variable {d : Desk} {s t : Store} {faults : Faults}

theorem LookedUp.scheduled {told : List Exchange} {queue : Id} {weekday : UInt8} {timeslot : UInt32}
    {schedule : Schedule} {capacity : Nat} (found : LookedUp told queue weekday timeslot schedule capacity)
    (heard : ∀ x ∈ told, (s.answerWith faults x.call).1 = x.answer) :
    s.register.schedule? queue weekday = some schedule := (Store.scheduleFor_eq_ok (heard _ found.stored)).symm

theorem grants_claim {queue : Id} {weekday : UInt8} {timeslot : UInt32} {caller : Caller} {w : Span}
    {schedule : Schedule} {capacity : Nat} {slot : Slot} (before : s.register.Timely d.zone)
    (after : t.register.Timely d.zone) (bounds : weekdayBounds weekday d.now d.zone = some w)
    (stored : s.register.schedule? queue weekday = some schedule) (seats : schedule.capacityAt timeslot = some capacity)
    (ahead : Rules.notStarted (schedule.startOf w timeslot) d.now = .ok ())
    (asked : s.answerWith faults (.claim queue w timeslot capacity caller.email) = (.ok slot, t)) :
    d.Grants (.claimTimeslot queue weekday timeslot caller) t.register slot weekday w schedule := by
  have outcome := Store.outcome_of_answerWith asked
  have schedules := outcome.keeps_schedules rfl
  obtain ⟨e, admitted, same⟩ := outcome.applied rfl
  cases admitted with
  | claim room first taken =>
    rename_i row
    have sorted := before.formed.orderly.sorted queue
    obtain ⟨member, inside, at_⟩ := (Queue.mem_atTimeslot sorted).mp (List.mem_of_find?_eq_some first)
    have own := before.formed.named queue row member
    have timed := before.timed queue row member
    have early := Schedule.lt_minutesPerDay (before.valid _ _ _ stored) (Schedule.lt_timeslots seats)
    have present : slot ∈ t.register.rows queue := by
      rw [same.rows, Register.rows_slotClaimed]
      exact (Queue.mem_of_slot? taken).1
    cases Register.eq_of_taken (before.formed.orderly.distinct queue) member taken
    subst at_ own
    have found := after.formed.resolve_of_mem present
    refine ⟨found, rfl, rfl, fun _ same => Option.some.inj same, rfl, bounds, inside, ?_, ?_⟩
    · rw [schedules]
      exact stored
    · -- The check was made of the start that the schedule gives, the row starts at the one that its own length gives.
      rw [Slot.timed_iff bounds early inside] at timed
      by_cases shorter : row.duration < schedule.duration
      · exact .inr ⟨rfl, shorter⟩
      · have later := slotStart_le bounds early (UInt32.not_lt.mp shorter)
        left
        show d.now ≤ row.scheduledTime
        rw [timed]
        exact Int64.le_trans (Rules.notStarted_eq_ok ahead) later

theorem Performs.grants {op : Operation} {told : List Exchange} {taken : List Id} {answer : Except BookingError op.Result}
    {slot : Slot} (performs : d.Performs op told taken answer) (granted : op.granted answer = some slot)
    (answers : s.Answers faults told t) (fresh : s.register.Fresh taken) (before : s.register.Timely d.zone)
    (after : t.register.Timely d.zone) : ∃ weekday w schedule, d.Grants op t.register slot weekday w schedule := by
  cases performs with
  | refused quiet => cases op <;> cases granted
  | claimed quiet bounds found ahead known =>
    rename_i a
    obtain ⟨⟨between, asked, rfl⟩, heard⟩ := answers.of_quiet quiet
    cases a with
    | error e => cases granted
    | ok row =>
      cases granted
      exact ⟨_, _, _, grants_claim before after bounds (found.scheduled heard) found.seats ahead asked⟩
  | signed quiet bounds found ahead known texts =>
    rename_i a
    obtain ⟨⟨between, asked, rfl⟩, heard⟩ := answers.of_quiet quiet
    cases a with
    | error e => cases granted
    | ok row =>
      cases granted
      obtain ⟨rfl, present, schedules, _⟩ := Store.inserted_row asked
      have stored := found.scheduled heard
      have inside := Schedule.contains_startOf (before.valid _ _ _ stored) bounds (Schedule.lt_timeslots found.seats)
      rw [← schedules] at stored
      exact ⟨_, _, _, after.formed.resolve_of_mem present, rfl, rfl, fun _ same => Option.some.inj same, rfl, bounds,
        inside, stored, .inl (Rules.notStarted_eq_ok ahead)⟩
  | revised story =>
    cases story with
    | refused quiet plain => contradiction
    | edited quiet texts =>
      rename_i a
      cases a <;> cases granted
    | full quiet fetched queue => contradiction
    | moved quiet fetched replaces known found =>
      rename_i current new created w schedule capacity a
      obtain ⟨⟨between, inserted, _, released, rfl⟩, heard⟩ := answers.of_quiet quiet
      cases a with
      | error cause => cases granted
      | ok gone =>
        cases granted
        cases (Store.inserted_row inserted).1
        obtain ⟨stays, schedules, _⟩ :=
          Store.rows_after_move before.formed fresh (heard _ fetched) inserted released replaces.claimed
        have stored := found.scheduled heard
        have fits := replaces.fits
        rw [← replaces.queue, ← schedules] at stored
        rw [fitsDay, Bool.and_eq_true] at fits
        refine ⟨_, _, _, after.formed.resolve_of_mem stays, replaces.claimed, replaces.requested, fun _ named => ?_, rfl,
          replaces.bounds, fits.1, stored, .inl (Rules.notStarted_eq_ok replaces.ahead)⟩
        cases named
  | removed story => cases granted
  | replaced quiet bounds valid => cases granted
  | published quiet bounds stored texts placed => cases granted

end Desk

namespace Service

variable {ids : Nat → Id} {zone : Zone} {vs : List Visit} {v : Visit}

/-- Whatever requests were made of a service whose log was blank, at any times and whatever failed, a row that the next
one gives to its caller is one that it may give. -/
theorem grants_lie_ahead {disk : Log.Disk} {slot : Slot} (blank : disk.bytes = [])
    (fresh : ((List.range ((start disk).visits ids zone (vs ++ [v])).minted).map ids).Nodup)
    (granted : ((start disk).visits ids zone vs).grant? ids zone v = some slot) :
    ∃ weekday w schedule, (Desk.mk zone v.now).Grants v.operation
      ((start disk).visits ids zone (vs ++ [v])).store.register slot weekday w schedule := by
  obtain ⟨told, taken, answers, performs, unused, before, after⟩ := performs_last blank fresh
  exact performs.grants granted answers unused before after

theorem grants_lie_ahead_movingDay :
    let ada : Caller := ⟨"ada@x.edu", false⟩
    let draft : Draft := ⟨some 11, some "Ada", some "limits", some "room 1", none, none⟩
    let slot : Slot := ⟨Id.ofNat 2, Id.ofNat 7, 11, 1700046000000, 60, some ada.email,
      ⟨"Ada", "limits", "room 1", .zero, .zero⟩⟩
    let move : Visit := ⟨1700038800000, .updateAppointment (Id.ofNat 1) draft ada, noFaults⟩
    ((start {}).visits (fun n => Id.ofNat (n + 1)) Zone.utc (movingDay.take 2)).grant? (fun n => Id.ofNat (n + 1))
        Zone.utc move = some slot ∧
      ∃ weekday w schedule, (Desk.mk Zone.utc move.now).Grants move.operation
        ((start {}).visits (fun n => Id.ofNat (n + 1)) Zone.utc (movingDay.take 2 ++ [move])).store.register slot
          weekday w schedule := by
  intro ada draft slot move
  have granted : ((start {}).visits (fun n => Id.ofNat (n + 1)) Zone.utc (movingDay.take 2)).grant?
      (fun n => Id.ofNat (n + 1)) Zone.utc move = some slot := by decide +kernel
  exact ⟨granted, grants_lie_ahead rfl (by decide +kernel) granted⟩

/-- A student moves a half hour of Thursday to the timeslot at which the hour of Wednesday from four on lies, and gives
it up; at three another student claims that timeslot. -/
def shortRow : List Visit :=
  let draft : Draft := { name := some "Ada", description := some "limits", location := some "room 1" }
  let ada : Caller := ⟨"ada@x.edu", false⟩
  let staff : Caller := ⟨"staff@x.edu", true⟩
  let ones (n : Nat) : Capacities := ⟨(List.replicate n '1').filterMap Capacities.digit?⟩
  [⟨1700006400000, .updateSchedule (Id.ofNat 7) 3 60 (ones 24) staff, noFaults⟩,
    ⟨1700006400000, .updateSchedule (Id.ofNat 7) 4 30 (ones 48) staff, noFaults⟩,
    ⟨1700006400000, .signup (Id.ofNat 7) 4 0 draft ada, noFaults⟩,
    ⟨1700006400000, .updateAppointment (Id.ofNat 1) { draft with timeslot := some 4 } ada, noFaults⟩,
    ⟨1700006400000, .removeSignup (Id.ofNat 2) ada, noFaults⟩]

theorem claim_grants_started_row :
    let claim : Visit := ⟨1700017200000, .claimTimeslot (Id.ofNat 7) 3 4 ⟨"bob@x.edu", false⟩, noFaults⟩
    (shortRow ++ [claim]).Pairwise (fun u v => u.now ≤ v.now) ∧
      ((List.range ((start {}).visits (fun n => Id.ofNat (n + 1)) Zone.utc (shortRow ++ [claim])).minted).map
        fun n => Id.ofNat (n + 1)).Nodup ∧
      ((start {}).visits (fun n => Id.ofNat (n + 1)) Zone.utc shortRow).grant? (fun n => Id.ofNat (n + 1)) Zone.utc
        claim = some ⟨Id.ofNat 2, Id.ofNat 7, 4, 1700013600000, 30, some "bob@x.edu",
          ⟨"Ada", "limits", "room 1", .zero, .zero⟩⟩ ∧
      (1700013600000 : Instant) < claim.now := by decide +kernel

end Service

end Bookings
