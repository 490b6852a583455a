import Bookings.Proofs.Desk.Endings
import Bookings.Proofs.Desk.Overbooking
import Bookings.Proofs.Store.Answers
import Bookings.Proofs.Store.Holdings
import Bookings.Proofs.Store.WellFormed

namespace Bookings

namespace Operation

def claims : Operation → Bool
  | .claimTimeslot .. => true
  | _ => false

def updates : Operation → Bool
  | .updateAppointment .. => true
  | _ => false

end Operation

namespace Desk

theorem exclusiveFrom_toInt {d : Desk} (shown : representable d.now.toInt = true) (schedule : Schedule) :
    (d.exclusiveFrom schedule).toInt = d.now.toInt - schedule.durationMs := by
  have range := representable_bounds shown
  have size := schedule.duration.toNat_lt
  have length : schedule.durationMs = (schedule.duration.toNat : Int) * 60000 := rfl
  exact Int64.toInt_ofInt_of_le (by omega) (by omega)

theorem exclusiveFrom_le {d : Desk} (shown : representable d.now.toInt = true) (schedule : Schedule) :
    d.exclusiveFrom schedule ≤ d.now := by
  have length : schedule.durationMs = (schedule.duration.toNat : Int) * 60000 := rfl
  rw [Int64.le_iff_toInt_le, exclusiveFrom_toInt shown]
  omega

/-- Only claims and moves let a student in beside a row that they hold from now on. -/
theorem Makes.exclusive {d : Desk} {op : Operation} {schedules : Schedules} {c : Call} (makes : d.Makes op schedules c)
    (unclaimed : op.claims = false) (staying : op.updates = false) (queue : Id) (email : String) :
    c.ExclusiveFor queue email d.now := by
  rcases makes with reads | writes
  · cases c <;> first | exact True.intro | contradiction
  · cases writes with
    | signup bounds stored seats ahead =>
      exact fun _ _ => ⟨_, rfl, exclusiveFrom_le (representable_of_bounds bounds) _⟩
    | remove => exact True.intro
    | replace bounds valid => exact True.intro
    | publish bounds stored placed => exact True.intro
    | claim bounds stored seats ahead => contradiction
    | move bounds stored seats fits ahead => contradiction
    | edit => contradiction
    | vacate => contradiction

end Desk

namespace Register

/-- Rows are as requests leave them, and none is so late that a search from now on would miss it. -/
structure Regular (z : Zone) (now : Instant) (r : Register) : Prop where
  booked : r.Booked z now
  formed : r.WellFormed
  near : ∀ queue, ∀ row ∈ r.rows queue, row.scheduledTime < farFuture

theorem regular_empty (z : Zone) (now : Instant) : empty.Regular z now where
  booked := booked_empty z now
  formed := wellFormed_empty
  near := by
    intro queue row member
    rw [rows_empty] at member
    contradiction

theorem Regular.later {z : Zone} {now later : Instant} {r : Register} (regular : r.Regular z now)
    (ordered : now ≤ later) : r.Regular z later := ⟨regular.booked.later ordered, regular.formed, regular.near⟩

theorem Admits.created_near {d : Desk} {r : Register} {c : Call} {e : Event} {a : c.Answer}
    (admitted : r.Admits c e a) (fits : c.Fits d r.schedule?) (valid : Schedules.Valid r.schedule?) {row : Slot}
    (created : row ∈ e.created) : row.scheduledTime < farFuture := by
  cases admitted with
  | insert small room free =>
    obtain ⟨weekday, schedule, bounds, stored, seats, inside⟩ := fits
    cases List.mem_singleton.mp created
    exact lt_farFuture bounds (inside (valid _ _ _ stored))
  | publish filled small =>
    obtain ⟨weekday, w, schedule, bounds, stored, placed⟩ := fits
    obtain ⟨slot, published, rfl⟩ := List.mem_map.mp created
    exact lt_farFuture bounds ((placed slot published).2 (valid _ _ _ stored))
  | _ => exact absurd created List.not_mem_nil

theorem regular_keeps (d : Desk) (replacing : Bool) :
    Keeps (fun r => r.Regular d.zone d.now) (d.Permits replacing) where
  same := by
    intro r s same regular
    refine ⟨regular.booked.of_same same, regular.formed.of_same same, ?_⟩
    intro queue
    rw [same.rows]
    exact regular.near queue
  apply := by
    intro r c e a admitted permitted fresh regular
    refine ⟨(booked_keeps d replacing).apply admitted permitted fresh regular.booked,
      regular.formed.apply fresh admitted.addressed, ?_⟩
    intro queue row member
    rcases mem_rows_apply member with ⟨old, present, changed⟩ | ⟨_, created⟩
    · rw [changed]
      exact regular.near queue old present
    · exact admitted.created_near permitted.1 regular.booked.valid created

/-- No student holds two rows of a queue from now on. -/
def Single (now : Instant) (r : Register) : Prop :=
  ∀ queue email, r.held queue email (Span.contains ⟨now, farFuture⟩) ≤ 1

theorem Single.later {now later : Instant} {r : Register} (single : r.Single now) (ordered : now ≤ later) :
    r.Single later := by
  intro queue email
  refine Nat.le_trans (held_mono fun row _ inside => ?_) (single queue email)
  rw [Span.contains_iff] at inside ⊢
  exact ⟨Int64.le_trans ordered inside.1, inside.2⟩

theorem Single.of_same {now : Instant} {r s : Register} (single : r.Single now) (same : s.Same r) : s.Single now := by
  intro queue email
  rw [held_of_same same]
  exact single queue email

theorem Single.apply {now : Instant} {r : Register} {c : Call} {e : Event} {a : c.Answer} (single : r.Single now)
    (orderly : r.Orderly) (admitted : r.Admits c e a) (exclusive : ∀ queue email, c.ExclusiveFor queue email now) :
    (r.apply e).Single now :=
  fun queue email => held_apply_le orderly admitted (exclusive queue email) (single queue email)

theorem mem_rows_slotCreated {r : Register} {queue : Id} {row : Slot} (member : row ∈ r.rows queue) (slot : Slot) :
    row ∈ (r.apply (.slotCreated slot)).rows queue := by
  by_cases own : queue = slot.queue
  · have rows := r.rows_apply_self (.slotCreated slot)
    change (r.apply (.slotCreated slot)).rows slot.queue = ((r.content slot.queue).insert slot).rows at rows
    rw [own] at member ⊢
    rw [rows, (Queue.rows_insert_perm _ slot).mem_iff]
    exact List.mem_cons_of_mem slot member
  · rw [r.rows_apply_other (.slotCreated slot) own]
    exact member

theorem Single.move {z : Zone} {now : Instant} {r : Register} {home : Id} {email : String} {old new : Slot}
    (single : r.Single now) (regular : r.Regular z now) (fresh : r.Fresh [new.id]) (member : old ∈ r.rows home)
    (theirs : old.student = some email) (claimed : new.student = some email) (own : new.queue = home)
    (punctual : now ≤ old.scheduledTime ∨ r.held home email (fun t => now ≤ t) = 0) :
    ((r.apply (.slotCreated new)).apply (.claimReleased old.id home)).Single now := by
  intro queue student
  have orderly := regular.booked.orderly.apply (.slotCreated new) fresh
  have inserted := r.held_slotCreated queue student (Span.contains ⟨now, farFuture⟩) new
  have released := held_claimReleased (orderly.distinct home) (mem_rows_slotCreated member new) queue student
    (Span.contains ⟨now, farFuture⟩)
  have before := single queue student
  rw [own] at inserted
  -- Only the student of the new row, in its queue, could hold more rows than before.
  by_cases counted : queue = home ∧ new.heldAt student (Span.contains ⟨now, farFuture⟩) = true
  · obtain ⟨rfl, his⟩ := counted
    have same : student = email := by
      have named := ((new.heldAt_iff student _).mp his).1
      exact Option.some.inj (named.symm.trans claimed)
    subst same
    rw [if_pos ⟨rfl, his⟩] at inserted
    rcases punctual with ahead | none
    · -- The old row counted before, and no longer does.
      have counts : old.heldAt student (Span.contains ⟨now, farFuture⟩) = true := by
        rw [Slot.heldAt_iff, Span.contains_iff]
        exact ⟨theirs, ahead, regular.near queue old member⟩
      rw [if_pos ⟨rfl, counts⟩] at released
      omega
    · have fewer : r.held queue student (Span.contains ⟨now, farFuture⟩) ≤ r.held queue student fun t => now ≤ t :=
        held_mono fun row _ inside => decide_eq_true ((Span.contains_iff _ _).mp inside).1
      omega
  · rw [if_neg counted] at inserted
    omega

end Register

theorem Register.WellFormed.slotCreated {r : Register} (formed : r.WellFormed) {slot : Slot} (fresh : r.Fresh [slot.id]) :
    (r.apply (.slotCreated slot)).WellFormed := by
  refine formed.apply fresh fun row created => ?_
  cases List.mem_singleton.mp created
  rfl

theorem Register.WellFormed.resolve_of_mem {r : Register} (formed : r.WellFormed) {queue : Id} {row : Slot}
    (member : row ∈ r.rows queue) : r.resolve row.id = .ok (queue, row) :=
  resolve_eq_ok_iff.mpr ⟨(formed.indexed row.id queue).mpr (List.mem_map_of_mem member),
    Queue.slot?_of_mem (formed.orderly.distinct queue) member⟩

theorem Store.same_after_move {s between t : Store} {old new created : Slot} {guard : Guard} {home : Id}
    {email : String} {a : Except StoreError Bool} (formed : s.register.WellFormed) (working : s.journal.Working)
    (fresh : s.register.Fresh [new.id]) (member : old ∈ s.register.rows home) (theirs : old.student = some email)
    (inserted : s.answer (.insert new guard) = (.ok created, between))
    (released : between.answer (.release old.id email) = (a, t)) :
    t.register.Same ((s.register.apply (.slotCreated new)).apply (.claimReleased old.id home)) := by
  have outcome := s.outcome (.insert new guard)
  rw [inserted] at outcome
  have same := outcome.of_insert.2
  -- The state behind the insertion is well formed, so the release finds the old row in it.
  have grown := formed.slotCreated fresh
  have present := Register.mem_rows_slotCreated member new
  rw [← same.rows] at present
  have found := (grown.of_same same).resolve_of_mem present
  obtain ⟨k, _, given⟩ := answer_release (working_of_outcome working outcome) found theirs
  cases released.symm.trans given
  exact same.apply _

/-- A row that has started is moved only by a student who holds no row of its queue from now on. -/
def Visit.punctual (s : Service) (v : Visit) : Bool :=
  match v.operation with
  | .updateAppointment appointment draft caller =>
    match s.store.register.resolve appointment with
    | .ok (home, row) =>
      !row.isClaimedBy caller.email || draft.timeslot.getD row.timeslot = row.timeslot || v.now ≤ row.scheduledTime ||
        s.store.register.held home caller.email (fun t => v.now ≤ t) = 0
    | .error _ => true
  | _ => true

theorem Plan.working_run {α : Type} {p : Plan α} {ids : Nat → Id} {faults : Faults} {s : Service}
    (working : s.store.journal.Working) : (p.run (Service.world ids faults) s).2.store.journal.Working := by
  induction p generalizing s with
  | done a => exact working
  | ask c next ih => exact ih _ (Store.working_of_outcome working (s.store.outcome_answerWith faults c))
  | mint next ih => exact ih _ working

namespace Service

variable {ids : Nat → Id} {zone : Zone} {last : Nat} {s : Service}

def punctual (ids : Nat → Id) (zone : Zone) : Service → List Visit → Bool
  | _, [] => true
  | s, v :: vs => v.punctual s && (s.visit ids zone v).punctual ids zone vs

theorem Safe.fresh_next {I : Register → Prop} (safe : s.Safe I ids last []) (bound : s.minted < last) :
    s.store.register.Fresh [ids s.minted] := by
  have fresh := safe.fresh
  rw [List.nil_append, coming_cons bound] at fresh
  exact Register.Fresh.left fresh

theorem single_updated {d : Desk} {appointment : Id} {draft : Draft} {caller : Caller}
    {answer : Except BookingError Update} {t : Service}
    (updated : d.Updated ids noFaults appointment draft caller s answer t)
    (safe : s.Safe (Register.Regular d.zone d.now) ids last []) (single : s.store.register.Single d.now)
    (working : s.store.journal.Working) (enough : t.minted ≤ last)
    (punctual : Visit.punctual s ⟨d.now, .updateAppointment appointment draft caller, noFaults⟩ = true) :
    t.store.register.Single d.now := by
  cases updated with
  | refused => exact single
  | edited asked =>
    have outcome := Store.outcome_of_answerWith asked
    rcases outcome.quiet_or_applied with ⟨_, same⟩ | ⟨e, admitted, same⟩
    · exact single.of_same same
    · exact (single.apply safe.holds.booked.orderly admitted fun _ _ => True.intro).of_same same
  | full asked =>
    have outcome := Store.outcome_of_answerWith asked
    rcases outcome.quiet_or_applied with ⟨_, same⟩ | ⟨e, admitted, same⟩
    · exact single.of_same same
    · cases admitted
  | moved fetched owned named differs ahead inserted released =>
    rename_i current created w capacity timeslot details a between t
    obtain ⟨home, found⟩ := Store.fetch_eq_ok fetched
    obtain ⟨member, rfl⟩ := Queue.mem_of_slot? (Register.resolve_eq_ok found).2
    have own := safe.holds.formed.named home current member
    have theirs : current.student = some caller.email := beq_iff_eq.mp owned
    have fresh := safe.fresh_next enough
    have same := Store.same_after_move safe.holds.formed working fresh member theirs inserted released
    refine Register.Single.of_same ?_ same
    refine single.move safe.holds fresh member theirs rfl own ?_
    simp only [Visit.punctual, found, owned, Bool.or_eq_true, Bool.not_true, Bool.false_eq_true, false_or,
      decide_eq_true_eq] at punctual
    rcases punctual with (stays | ahead) | none
    · exact absurd (named.trans stays) differs
    · exact .inl ahead
    · exact .inr none

structure Tidy (zone : Zone) (now : Instant) (ids : Nat → Id) (last : Nat) (s : Service) : Prop where
  safe : s.Safe (Register.Regular zone now) ids last []
  single : s.store.register.Single now
  working : s.store.journal.Working

theorem Tidy.later {now later : Instant} (tidy : s.Tidy zone now ids last) (ordered : now ≤ later) :
    s.Tidy zone later ids last :=
  ⟨⟨tidy.safe.holds.later ordered, tidy.safe.fresh⟩, tidy.single.later ordered, tidy.working⟩

theorem regular_visit {v : Visit} (safe : s.Safe (Register.Regular zone v.now) ids last [])
    (enough : (s.visit ids zone v).minted ≤ last) :
    (s.visit ids zone v).Safe (Register.Regular zone v.now) ids last [] :=
  safe_visit ((Register.regular_keeps ⟨zone, v.now⟩ v.operation.replaces).mono fun _ _ makes => makes.permits) safe
    enough

theorem single_visit {v : Visit} (tidy : s.Tidy zone v.now ids last) (unclaimed : v.operation.claims = false)
    (staying : v.operation.updates = false) (enough : (s.visit ids zone v).minted ≤ last) :
    (s.visit ids zone v).store.register.Single v.now := by
  -- A run keeps one property of states, so all queues and students are taken together.
  have keeps : Register.Keeps (fun r => ∀ p : Id × String, r.Orderly ∧
      r.held p.1 p.2 (Span.contains ⟨v.now, farFuture⟩) ≤ 1) ((Desk.mk zone v.now).Makes v.operation) :=
    Register.Keeps.all fun p => (Register.held_keeps p.1 p.2 v.now).mono
      fun _ _ makes => makes.exclusive unclaimed staying p.1 p.2
  have after := safe_visit keeps ⟨fun p => ⟨tidy.safe.holds.booked.orderly, tidy.single p.1 p.2⟩, tidy.safe.fresh⟩ enough
  exact fun queue email => (after.holds (queue, email)).2

theorem updated_visit (ids : Nat → Id) (zone : Zone) (s : Service) (now : Instant) (appointment : Id) (draft : Draft)
    (caller : Caller) (faults : Faults) :
    ∃ answer, (Desk.mk zone now).Updated ids faults appointment draft caller s answer
      (s.visit ids zone ⟨now, .updateAppointment appointment draft caller, faults⟩) :=
  ⟨_, Desk.ends_updateAppointment ⟨zone, now⟩ ids faults appointment draft caller s⟩

theorem tidy_visit {v : Visit} (tidy : s.Tidy zone v.now ids last) (healthy : v.faults = noFaults)
    (unclaimed : v.operation.claims = false) (punctual : v.punctual s = true)
    (enough : (s.visit ids zone v).minted ≤ last) : (s.visit ids zone v).Tidy zone v.now ids last := by
  refine ⟨regular_visit tidy.safe enough, ?_, Plan.working_run tidy.working⟩
  by_cases staying : v.operation.updates = false
  · exact single_visit tidy unclaimed staying enough
  · obtain ⟨now, op, faults⟩ := v
    change faults = noFaults at healthy
    subst healthy
    cases op with
    | updateAppointment appointment draft caller =>
      obtain ⟨answer, updated⟩ := updated_visit ids zone s now appointment draft caller noFaults
      have after := single_updated updated tidy.safe tidy.single tidy.working enough punctual
      exact after
    | claimTimeslot queue weekday timeslot caller => exact absurd rfl staying
    | signup queue weekday timeslot draft caller => exact absurd rfl staying
    | removeSignup appointment caller => exact absurd rfl staying
    | updateSchedule queue weekday duration capacities caller => exact absurd rfl staying
    | publishOpenSlots queue weekday template caller => exact absurd rfl staying

theorem tidy_visits {vs : List Visit} {now later : Instant} (tidy : s.Tidy zone now ids last)
    (healthy : ∀ v ∈ vs, v.faults = noFaults) (unclaimed : ∀ v ∈ vs, v.operation.claims = false)
    (punctual : s.punctual ids zone vs = true) (started : ∀ v ∈ vs, now ≤ v.now)
    (monotone : vs.Pairwise fun u v => u.now ≤ v.now) (latest : ∀ v ∈ vs, v.now ≤ later) (ordered : now ≤ later)
    (enough : (s.visits ids zone vs).minted ≤ last) : (s.visits ids zone vs).Tidy zone later ids last := by
  induction vs generalizing s now with
  | nil => exact tidy.later ordered
  | cons v vs ih =>
    rw [Service.punctual, Bool.and_eq_true] at punctual
    obtain ⟨sound, others⟩ := List.forall_mem_cons.mp healthy
    obtain ⟨plain, rest⟩ := List.forall_mem_cons.mp unclaimed
    obtain ⟨next, following⟩ := List.pairwise_cons.mp monotone
    have before := tidy.later (started v List.mem_cons_self)
    have first := Nat.le_trans (minted_le_visits vs _) enough
    exact ih (tidy_visit before sound plain punctual.1 first) others rest punctual.2 next following
      (fun u member => latest u (List.mem_cons_of_mem v member)) (latest v List.mem_cons_self) enough

theorem tidy_start {disk : Log.Disk} {now : Instant} (blank : disk.bytes = []) (working : disk.Working)
    (fresh : ((List.range last).map ids).Nodup) : (start disk).Tidy zone now ids last := by
  refine ⟨safe_start blank (Register.regular_empty zone now) fresh, ?_, Log.Journal.working_open working⟩
  intro queue email
  rw [start, Store.open, blank]
  change Register.held Register.empty queue email _ ≤ 1
  rw [Register.held, Register.rows_empty]
  exact Nat.zero_le _

/-- Whatever requests but claims were made of a service that works and whose log was blank, at times that never went
back, no student holds two rows of a queue from now on, unless one who held such a row moved a row that had
started. -/
theorem visits_book_once {disk : Log.Disk} {vs : List Visit} {now : Instant} (blank : disk.bytes = [])
    (working : disk.Working) (healthy : ∀ v ∈ vs, v.faults = noFaults)
    (unclaimed : ∀ v ∈ vs, v.operation.claims = false) (punctual : (start disk).punctual ids zone vs = true)
    (monotone : vs.Pairwise fun u v => u.now ≤ v.now) (latest : ∀ v ∈ vs, v.now ≤ now)
    (fresh : ((List.range ((start disk).visits ids zone vs).minted).map ids).Nodup) (queue : Id) (email : String) :
    ((start disk).visits ids zone vs).store.register.held queue email (fun t => now ≤ t) ≤ 1 := by
  have tidy : ((start disk).visits ids zone vs).Tidy zone now ids ((start disk).visits ids zone vs).minted := by
    cases vs with
    | nil => exact tidy_start blank working fresh
    | cons v vs =>
      -- A blank store is in good order at any time, so also at that of the first request.
      have started : ∀ u ∈ v :: vs, v.now ≤ u.now := by
        intro u member
        rcases List.mem_cons.mp member with rfl | later
        · exact Int64.le_refl _
        · exact (List.pairwise_cons.mp monotone).1 u later
      exact tidy_visits (tidy_start blank working fresh) healthy unclaimed punctual started monotone latest
        (latest v List.mem_cons_self) (Nat.le_refl _)
  refine Nat.le_trans (Register.held_mono fun row member ahead => ?_) (tidy.single queue email)
  exact (Span.contains_iff _ _).mpr ⟨of_decide_eq_true ahead, tidy.safe.holds.near queue row member⟩

/-- A Wednesday with an hour for each timeslot, on which a student signs up and moves, then signs up and moves
again after that hour has started. -/
def movingDay : List Visit :=
  let draft : Draft := { name := some "Ada", description := some "limits", location := some "room 1" }
  let ada : Caller := ⟨"ada@x.edu", false⟩
  let hour := 3600000
  [⟨1700006400000, .updateSchedule (Id.ofNat 7) 3 60 ⟨(List.replicate 24 '1').filterMap Capacities.digit?⟩
      ⟨"staff@x.edu", true⟩, noFaults⟩,
    ⟨1700006400000 + 9 * hour, .signup (Id.ofNat 7) 3 10 draft ada, noFaults⟩,
    ⟨1700006400000 + 9 * hour, .updateAppointment (Id.ofNat 1) { draft with timeslot := some 11 } ada, noFaults⟩,
    ⟨1700006400000 + 12 * hour, .updateAppointment (Id.ofNat 2) { draft with timeslot := some 14 } ada, noFaults⟩]

theorem visits_book_once_movingDay :
    ((start {}).visits (fun n => Id.ofNat (n + 1)) Zone.utc movingDay).store.register.held (Id.ofNat 7) "ada@x.edu"
        (fun t => 1700006400000 + 12 * 3600000 ≤ t) = 1 ∧
      ((start {}).visits (fun n => Id.ofNat (n + 1)) Zone.utc movingDay).store.register.held (Id.ofNat 7) "ada@x.edu"
        (fun t => 1700006400000 + 12 * 3600000 ≤ t) ≤ 1 := by
  refine ⟨by decide +kernel, ?_⟩
  exact visits_book_once rfl ⟨rfl, rfl⟩ (by simp [movingDay]) (by decide +kernel) (by decide +kernel) (by decide +kernel)
    (by decide +kernel) (by decide +kernel) (Id.ofNat 7) "ada@x.edu"

/-- The student signs up at ten; when that hour is half over they sign up for noon, and then move the row of ten to
one o'clock. -/
def lateMove : List Visit :=
  let draft : Draft := { name := some "Ada", description := some "limits", location := some "room 1" }
  let ada : Caller := ⟨"ada@x.edu", false⟩
  let hour := 3600000
  [⟨1700006400000, .updateSchedule (Id.ofNat 7) 3 60 ⟨(List.replicate 24 '1').filterMap Capacities.digit?⟩
      ⟨"staff@x.edu", true⟩, noFaults⟩,
    ⟨1700006400000 + 9 * hour, .signup (Id.ofNat 7) 3 10 draft ada, noFaults⟩,
    ⟨1700047800000, .signup (Id.ofNat 7) 3 12 draft ada, noFaults⟩,
    ⟨1700047800000, .updateAppointment (Id.ofNat 1) { draft with timeslot := some 13 } ada, noFaults⟩]

theorem late_move_books_twice :
    (lateMove.all fun v => v.operation.claims = false && decide (v.now ≤ 1700047800000)) = true ∧
      lateMove.Pairwise (fun u v => u.now ≤ v.now) ∧
      ((List.range ((start {}).visits (fun n => Id.ofNat (n + 1)) Zone.utc lateMove).minted).map
        fun n => Id.ofNat (n + 1)).Nodup ∧
      ((start {}).visits (fun n => Id.ofNat (n + 1)) Zone.utc lateMove).store.register.held (Id.ofNat 7) "ada@x.edu"
        (fun t => 1700047800000 ≤ t) = 2 := by decide +kernel

end Service

end Bookings
