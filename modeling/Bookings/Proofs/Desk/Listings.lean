import Bookings.Proofs.Desk.View

namespace Bookings

/-- The rows shown are those rows that have the property, in order of time and those of one time in the order in which
their identifiers were brought. -/
structure Slot.Lists (brought : List Id) (rows : List Slot) (wanted : Slot → Prop) (shown : List Slot) : Prop where
  exact : ∀ row, row ∈ shown ↔ row ∈ rows ∧ wanted row
  ordered : shown.Pairwise (Slot.Precedes brought)

theorem Slot.lists_filter {brought : List Id} {q : Queue} (filed : q.Filed brought) {p : Slot → Bool}
    {wanted : Slot → Prop} (same : ∀ row, p row = true ↔ wanted row) :
    Slot.Lists brought q.rows wanted (q.rows.filter p) where
  exact := fun row => by rw [List.mem_filter, same]
  ordered := filed.ordered.filter p

theorem Slot.isClaimedBy_iff (row : Slot) (email : String) : row.isClaimedBy email = true ↔ row.student = some email :=
  beq_iff_eq

namespace Register

def heldBy (r : Register) (queue : Id) (email : String) : List Slot :=
  (r.rows queue).filter fun row => row.isClaimedBy email

theorem within_eq_filter {r : Register} {queue : Id} (sorted : (r.content queue).Sorted) (w : Span) :
    r.within queue w = (r.rows queue).filter fun row => w.contains row.scheduledTime := by
  rw [within_eq, Queue.within_eq_filter sorted, rows]

theorem claimedBy_eq_filter {r : Register} {queue : Id} (sorted : (r.content queue).Sorted) (w : Span)
    (email : String) :
    r.claimedBy queue w email = (r.heldBy queue email).filter fun row => w.contains row.scheduledTime := by
  rw [claimedBy_eq, Queue.claimedBy, Queue.within_eq_filter sorted, heldBy, rows, List.filter_filter, List.filter_filter]
  apply List.filter_congr
  intro row _
  exact Bool.and_comm _ _

end Register

namespace Desk

variable {d : Desk} {ids : Nat → Id} {s : Service} {queue : Id} {weekday : UInt8} {caller : Caller}

/-- The listing of a day for one student, by the rows that the student holds. -/
def listing (d : Desk) (weekday : UInt8) (caller : Caller) (held : List Slot) : Except BookingError (List Slot) := do
  Rules.caller caller
  let w ← d.window weekday
  return held.filter fun row => w.contains row.scheduledTime

theorem outcome_myAppointments (sorted : (s.store.register.content queue).Sorted) :
    (d.myAppointments queue weekday caller).outcome (Service.world ids Service.noFaults) s =
      (d.listing weekday caller (s.store.register.heldBy queue caller.email), s) := by
  unfold myAppointments listing
  rw [Action.outcome_bind, Action.outcome_check]
  cases Rules.caller caller with
  | error e => rfl
  | ok known =>
    dsimp only
    rw [Action.outcome_bind, Action.outcome_check]
    cases d.window weekday with
    | error e => rfl
    | ok w =>
      show (Except.ok (s.store.register.claimedBy queue w caller.email), s) = _
      rw [Register.claimedBy_eq_filter sorted]
      rfl

theorem outcome_appointmentsForDay_admin (sorted : (s.store.register.content queue).Sorted)
    (admin : caller.admin = true) {w : Span} (bounds : weekdayBounds weekday d.now d.zone = some w) :
    (d.appointmentsForDay queue weekday caller).outcome (Service.world ids Service.noFaults) s =
      (.ok ((s.store.register.rows queue).filter fun row => w.contains row.scheduledTime), s) := by
  unfold appointmentsForDay
  rw [if_pos admin, Action.outcome_bind, Action.outcome_check, (window_of_bounds bounds).2]
  show (Except.ok (s.store.register.within queue w), s) = _
  rw [Register.within_eq_filter sorted]

theorem appointmentsForDay_of_student (student : caller.admin = false) :
    d.appointmentsForDay queue weekday caller = d.myAppointments queue weekday caller := by
  unfold appointmentsForDay
  rw [student]
  rfl

theorem listing_of_bounds (known : Rules.caller caller = .ok ()) {w : Span}
    (bounds : weekdayBounds weekday d.now d.zone = some w) (held : List Slot) :
    d.listing weekday caller held = .ok (held.filter fun row => w.contains row.scheduledTime) := by
  rw [listing, known, (window_of_bounds bounds).2]
  rfl

end Desk

namespace Store

theorem Reached.consistent {brought : List Id} {es : List Event} {s : Store} (reached : Reached brought es s)
    (distinct : brought.Nodup) : s.register.Consistent brought := (reached.restorable distinct).consistent

end Store

namespace Service

variable {ids : Nat → Id} {s : Service} {brought : List Id} {es : List Event} {d : Desk} {queue : Id} {weekday : UInt8}
  {caller : Caller}

/-- In whatever state, an admin is shown exactly the rows of a day, and a student exactly those of them that the
student holds, by either query; both in order of time and then of insertion. What a student is shown depends on the
rows that the student holds and on nothing else in the state. -/
theorem listings_are_exact_and_private (reached : Store.Reached brought es s.store) (distinct : brought.Nodup) :
    (∀ {w : Span}, weekdayBounds weekday d.now d.zone = some w →
      (caller.admin = true → ∃ shown,
        (d.appointmentsForDay queue weekday caller).outcome (world ids noFaults) s = (.ok shown, s) ∧
          Slot.Lists brought (s.store.register.rows queue) (fun row => w.contains row.scheduledTime = true) shown) ∧
      (caller.admin = false → Rules.caller caller = .ok () → ∃ shown,
        (d.appointmentsForDay queue weekday caller).outcome (world ids noFaults) s = (.ok shown, s) ∧
          (d.myAppointments queue weekday caller).outcome (world ids noFaults) s = (.ok shown, s) ∧
          Slot.Lists brought (s.store.register.rows queue)
            (fun row => w.contains row.scheduledTime = true ∧ row.student = some caller.email) shown)) ∧
    (caller.admin = false → ∀ {t : Service} {others : List Id} {fs : List Event}, Store.Reached others fs t.store →
      others.Nodup →
      t.store.register.heldBy queue caller.email = s.store.register.heldBy queue caller.email →
      ((d.appointmentsForDay queue weekday caller).outcome (world ids noFaults) t).1 =
          ((d.appointmentsForDay queue weekday caller).outcome (world ids noFaults) s).1 ∧
        ((d.myAppointments queue weekday caller).outcome (world ids noFaults) t).1 =
          ((d.myAppointments queue weekday caller).outcome (world ids noFaults) s).1) := by
  have filed := (reached.consistent distinct).filed queue
  refine ⟨fun {w} bounds => ⟨fun admin => ?_, fun student known => ?_⟩, fun student t others fs => ?_⟩
  · exact ⟨_, Desk.outcome_appointmentsForDay_admin filed.sorted admin bounds, Slot.lists_filter filed fun _ => Iff.rfl⟩
  · have shown := @Desk.outcome_myAppointments d ids s queue weekday caller filed.sorted
    rw [Desk.listing_of_bounds known bounds, Register.heldBy, List.filter_filter] at shown
    refine ⟨_, ?_, shown, Slot.lists_filter filed fun row => ?_⟩
    · rw [Desk.appointmentsForDay_of_student student]
      exact shown
    · rw [Bool.and_eq_true, Slot.isClaimedBy_iff]
  · intro reachedToo distinctToo same
    have sortedToo := ((reachedToo.consistent distinctToo).filed queue).sorted
    rw [Desk.appointmentsForDay_of_student student, Desk.outcome_myAppointments filed.sorted,
      Desk.outcome_myAppointments sortedToo, same]
    exact ⟨rfl, rfl⟩

def wednesdayRow (id : Nat) (timeslot : UInt32) (time : Instant) (student : Option String) : Slot :=
  ⟨Id.ofNat id, Id.ofNat 7, timeslot, time, 30, student, ⟨"Ada", "limits", "room 1", .zero, .zero⟩⟩

def crowdedCalls : List Call :=
  let guard : Guard := ⟨⟨1700006400000, 1700092800000⟩, 1, none⟩
  [.insert (wednesdayRow 1 4 1700013600000 (some "bob@x.edu")) guard,
    .insert (wednesdayRow 2 2 1700010000000 (some "ada@x.edu")) guard,
    .publish (Id.ofNat 7) [wednesdayRow 3 2 1700010000000 none, wednesdayRow 4 2 1700092800000 none],
    .insert (wednesdayRow 5 3 1700010000000 (some "ada@x.edu")) guard]

def lonelyCalls : List Call :=
  let guard : Guard := ⟨⟨1700006400000, 1700092800000⟩, 1, none⟩
  [.insert (wednesdayRow 2 2 1700010000000 (some "ada@x.edu")) guard,
    .insert (wednesdayRow 5 3 1700010000000 (some "ada@x.edu")) guard]

theorem listings_are_exact_and_private_wednesday :
    let ids := fun n => Id.ofNat (n + 100)
    let d := Desk.mk Zone.utc 1700006400000
    let s : Service := ⟨(Store.open {}).after crowdedCalls, 0⟩
    let t : Service := ⟨(Store.open {}).after lonelyCalls, 0⟩
    let rows := s.store.register.rows (Id.ofNat 7)
    let brought := crowdedCalls.flatMap Call.newIds
    let w : Span := ⟨1700006400000, 1700092800000⟩
    let staff : Caller := ⟨"staff@x.edu", true⟩
    let ada : Caller := ⟨"ada@x.edu", false⟩
    (∃ shown, (d.appointmentsForDay (Id.ofNat 7) 3 staff).outcome (world ids noFaults) s = (.ok shown, s) ∧
      Slot.Lists brought rows (fun row => w.contains row.scheduledTime = true) shown ∧
      shown.map Slot.id = [Id.ofNat 2, Id.ofNat 3, Id.ofNat 5, Id.ofNat 1]) ∧
    (∃ shown, (d.appointmentsForDay (Id.ofNat 7) 3 ada).outcome (world ids noFaults) s = (.ok shown, s) ∧
      Slot.Lists brought rows (fun row => w.contains row.scheduledTime = true ∧ row.student = some "ada@x.edu") shown ∧
      shown.map Slot.id = [Id.ofNat 2, Id.ofNat 5]) ∧
    ((d.myAppointments (Id.ofNat 7) 3 ada).outcome (world ids noFaults) t).1 =
      ((d.myAppointments (Id.ofNat 7) 3 ada).outcome (world ids noFaults) s).1 := by
  intro ids d s t rows brought w staff ada
  have blank : Log.Disk.bytes {} = [] := rfl
  have crowded := (Store.Reached.opened blank).after crowdedCalls
  have lonely := (Store.Reached.opened blank).after lonelyCalls
  have bounds : weekdayBounds 3 d.now d.zone = some w := by decide +kernel
  have any := fun caller => @listings_are_exact_and_private ids s brought _ d (Id.ofNat 7) 3 caller crowded
    (by decide +kernel)
  obtain ⟨all, seen, whole⟩ := ((any staff).1 bounds).1 rfl
  obtain ⟨own, shown, _, mine⟩ := ((any ada).1 bounds).2 rfl (by decide +kernel)
  have listed : ((d.appointmentsForDay (Id.ofNat 7) 3 staff).outcome (world ids noFaults) s).1.map (List.map Slot.id) =
      .ok [Id.ofNat 2, Id.ofNat 3, Id.ofNat 5, Id.ofNat 1] := by decide +kernel
  have few : ((d.appointmentsForDay (Id.ofNat 7) 3 ada).outcome (world ids noFaults) s).1.map (List.map Slot.id) =
      .ok [Id.ofNat 2, Id.ofNat 5] := by decide +kernel
  rw [seen] at listed
  rw [shown] at few
  refine ⟨⟨all, seen, whole, Except.ok.inj listed⟩, ⟨own, shown, mine, Except.ok.inj few⟩, ?_⟩
  exact ((any ada).2 rfl lonely (by decide +kernel) (by decide +kernel)).2

end Service

end Bookings
