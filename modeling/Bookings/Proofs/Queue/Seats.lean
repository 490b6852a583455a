import Bookings.Proofs.Queue.Counts

namespace Bookings

def Slot.seated (times : Instant → Bool) (timeslot : UInt32) (s : Slot) : Bool :=
  s.isClaimed && (s.timeslot = timeslot && times s.scheduledTime)

theorem Slot.seated_iff (times : Instant → Bool) (timeslot : UInt32) (s : Slot) :
    s.seated times timeslot = true ↔
      s.isClaimed = true ∧ s.timeslot = timeslot ∧ times s.scheduledTime = true := by
  simp only [seated, Bool.and_eq_true, decide_eq_true_eq]

theorem hasRoom_openSeats_iff (capacity : Nat) (rows : List Slot) :
    hasRoom (openSeats capacity rows) = true ↔ rows.countP Slot.isClaimed < capacity := by
  rw [hasRoom, decide_eq_true_eq, openSeats]
  omega

theorem hasRoom_openSeats_of_nil {capacity : Nat} {rows : List Slot} (some : hasRoom (openSeats capacity rows) = true) :
    hasRoom (openSeats capacity []) = true := by
  rw [hasRoom_openSeats_iff] at some ⊢
  exact Nat.zero_lt_of_lt some

namespace Queue

def taken (q : Queue) (times : Instant → Bool) (timeslot : UInt32) : Nat :=
  q.rows.countP (Slot.seated times timeslot)

variable (times : Instant → Bool) (timeslot : UInt32)

theorem taken_eq_zero {q : Queue} (none : ∀ s ∈ q.rows, times s.scheduledTime = false) :
    q.taken times timeslot = 0 := by
  rw [taken, List.countP_eq_zero]
  intro s member held
  have inside := ((s.seated_iff times timeslot).mp held).2.2
  rw [none s member] at inside
  contradiction

theorem countP_atTimeslot {q : Queue} (sorted : q.Sorted) (w : Span) :
    (q.atTimeslot w timeslot).countP Slot.isClaimed = q.taken w.contains timeslot := by
  rw [atTimeslot, within_eq_filter sorted, List.filter_filter, List.countP_filter, taken]
  rfl

theorem hasRoom_atTimeslot_iff {q : Queue} (sorted : q.Sorted) (w : Span) (capacity : Nat) :
    hasRoom (openSeats capacity (q.atTimeslot w timeslot)) = true ↔ q.taken w.contains timeslot < capacity := by
  rw [hasRoom_openSeats_iff, countP_atTimeslot timeslot sorted]

theorem taken_insert (q : Queue) (slot : Slot) :
    (q.insert slot).taken times timeslot =
      q.taken times timeslot + if slot.seated times timeslot = true then 1 else 0 := countP_insert _ q slot

theorem taken_insert_unseated (q : Queue) {slot : Slot} (unseated : slot.seated times timeslot = false) :
    (q.insert slot).taken times timeslot = q.taken times timeslot := by
  rw [taken_insert, unseated]
  rfl

theorem taken_foldl_insert (q : Queue) (slots : List Slot) (opened : ∀ s ∈ slots, s.isClaimed = false) :
    (slots.foldl Queue.insert q).taken times timeslot = q.taken times timeslot := by
  apply countP_foldl_insert
  intro s member
  rw [Slot.seated, opened s member, Bool.false_and]

theorem taken_modify_of_same (q : Queue) (id : Id) (f : Slot → Slot)
    (same : ∀ s, (f s).seated times timeslot = s.seated times timeslot) :
    (q.modify id f).taken times timeslot = q.taken times timeslot := countP_modify_of_same _ q id f same

theorem taken_modify_le {q : Queue} (distinct : q.Distinct) (id : Id) (f : Slot → Slot)
    (kept : ∀ s ∈ q.rows, s.id = id → (f s).seated times timeslot = true → s.seated times timeslot = true) :
    (q.modify id f).taken times timeslot ≤ q.taken times timeslot := countP_modify_le _ distinct id f kept

theorem taken_modify_le_succ (q : Queue) (id : Id) (f : Slot → Slot) :
    (q.modify id f).taken times timeslot ≤ q.taken times timeslot + 1 := countP_rows_modify_le_succ _ q id f

end Queue

end Bookings
