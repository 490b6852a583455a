import Bookings.Proofs.Queue.Counts
import Bookings.Proofs.Store.Run

namespace Bookings

def Slot.heldAt (email : String) (times : Instant → Bool) (s : Slot) : Bool :=
  s.isClaimedBy email && times s.scheduledTime

theorem Slot.heldAt_iff (email : String) (times : Instant → Bool) (s : Slot) :
    s.heldAt email times = true ↔ s.student = some email ∧ times s.scheduledTime = true := by
  rw [heldAt, isClaimedBy, Bool.and_eq_true, beq_iff_eq]

/-- No claim is made for the student in `queue`, and a row of theirs is inserted there only if they hold none from
`start` on. -/
def Call.ExclusiveFor (queue : Id) (email : String) (start : Instant) : Call → Prop
  | .insert slot guard =>
    slot.queue = queue → slot.student = some email → ∃ early, guard.exclusiveFrom = some early ∧ early ≤ start
  | .claim claimed _ _ _ student => claimed = queue → student ≠ email
  | _ => True

namespace Register

def held (r : Register) (queue : Id) (email : String) (times : Instant → Bool) : Nat :=
  (r.rows queue).countP (Slot.heldAt email times)

theorem held_of_same {r s : Register} (same : r.Same s) (queue : Id) (email : String) (times : Instant → Bool) :
    r.held queue email times = s.held queue email times := by
  rw [held, same.rows, held]

theorem held_mono {r : Register} {queue : Id} {email : String} {times more : Instant → Bool}
    (wider : ∀ row ∈ r.rows queue, times row.scheduledTime = true → more row.scheduledTime = true) :
    r.held queue email times ≤ r.held queue email more := by
  apply List.countP_mono_left
  intro row member counted
  obtain ⟨claimed, inside⟩ := (row.heldAt_iff email times).mp counted
  exact (row.heldAt_iff email more).mpr ⟨claimed, wider row member inside⟩

theorem held_slotCreated (r : Register) (queue : Id) (email : String) (times : Instant → Bool) (slot : Slot) :
    (r.apply (.slotCreated slot)).held queue email times =
      r.held queue email times + if queue = slot.queue ∧ slot.heldAt email times = true then 1 else 0 := by
  by_cases own : queue = slot.queue
  · have grown := Queue.countP_insert (Slot.heldAt email times) (r.content slot.queue) slot
    rw [own, held, r.rows_slotCreated, grown]
    simp only [true_and]
    rfl
  · rw [held, r.rows_apply_other (.slotCreated slot) own, if_neg fun both => own both.1]
    rfl

theorem held_apply_of_countP (r : Register) (e : Event) {email : String} {times : Instant → Bool}
    (same : ((r.content e.queue).apply e).rows.countP (Slot.heldAt email times) =
      (r.rows e.queue).countP (Slot.heldAt email times)) (queue : Id) :
    (r.apply e).held queue email times = r.held queue email times := by
  by_cases own : queue = e.queue
  · rw [own, held, rows_apply_self, same, held]
  · rw [held, rows_apply_other r e own, held]

theorem held_detailsEdited (r : Register) (id home : Id) (details : Details) (queue : Id) (email : String)
    (times : Instant → Bool) :
    (r.apply (.detailsEdited id home details)).held queue email times = r.held queue email times :=
  r.held_apply_of_countP (.detailsEdited id home details) (Queue.countP_modify_of_same _ _ _ _ fun _ => rfl) queue

theorem held_claimReleased {r : Register} {home : Id} (distinct : (r.content home).Distinct) {row : Slot}
    (member : row ∈ r.rows home) (queue : Id) (email : String) (times : Instant → Bool) :
    (r.apply (.claimReleased row.id home)).held queue email times +
      (if queue = home ∧ row.heldAt email times = true then 1 else 0) = r.held queue email times := by
  by_cases own : queue = home
  · have changed := Queue.countP_modify (Slot.heldAt email times) distinct member fun s => { s with student := none }
    have vacant : ({ row with student := none } : Slot).heldAt email times = false := rfl
    rw [vacant] at changed
    rw [own, held, r.rows_claimReleased]
    simp only [true_and]
    exact changed
  · rw [held, r.rows_apply_other (.claimReleased row.id home) own, if_neg fun both => own both.1]
    rfl

section

variable {r : Register} {queue : Id} {email : String} {start : Instant}

theorem held_eq_zero {slot : Slot} {guard : Guard} (sorted : (r.content slot.queue).Sorted)
    (claimed : slot.student = some email) {early : Instant} (exclusive : guard.exclusiveFrom = some early)
    (ordered : early ≤ start) (free : r.conflict? slot guard = none) :
    r.held slot.queue email (Span.contains ⟨start, farFuture⟩) = 0 := by
  simp only [conflict?, exclusive, claimed, List.head?_eq_none_iff] at free
  rw [claimedBy_eq, Queue.claimedBy, Queue.within_eq_filter sorted, List.filter_filter, List.filter_eq_nil_iff] at free
  rw [held, List.countP_eq_zero]
  intro row member counted
  obtain ⟨theirs, inside⟩ := (row.heldAt_iff email _).mp counted
  rw [Span.contains_iff] at inside
  have searched : (Span.mk early farFuture).contains row.scheduledTime = true :=
    (Span.contains_iff _ _).mpr ⟨Int64.le_trans ordered inside.1, inside.2⟩
  apply free row member
  rw [searched, Slot.isClaimedBy, theirs]
  simp

theorem held_apply_le (orderly : r.Orderly) {c : Call} {e : Event} {a : c.Answer} (admitted : r.Admits c e a)
    (exclusive : c.ExclusiveFor queue email start)
    (bound : r.held queue email (Span.contains ⟨start, farFuture⟩) ≤ 1) :
    (r.apply e).held queue email (Span.contains ⟨start, farFuture⟩) ≤ 1 := by
  by_cases own : queue = e.queue
  · have distinct := orderly.distinct queue
    have rows : (r.apply e).rows queue = ((r.content queue).apply e).rows := by rw [own, rows_apply_self]
    rw [held, rows]
    cases admitted with
    | replaceSchedule vacant => exact bound
    | insert small room free =>
      rename_i slot guard
      change ((r.content queue).insert slot).rows.countP _ ≤ 1
      rw [Queue.countP_insert]
      split
      · rename_i counted
        have claimed := ((slot.heldAt_iff email _).mp counted).1
        obtain ⟨early, asked, ordered⟩ := exclusive own.symm claimed
        have none := held_eq_zero (orderly.sorted slot.queue) claimed asked ordered free
        change queue = slot.queue at own
        rw [← own] at none
        exact Nat.le_of_eq (congrArg (· + 1) none)
      · exact bound
    | publish filled small =>
      refine Nat.le_trans (Nat.le_of_eq (Queue.countP_foldl_insert _ _ _ ?_)) bound
      intro s published
      obtain ⟨slot, _, rfl⟩ := List.mem_map.mp published
      rfl
    | edit indexed present held =>
      exact Nat.le_trans (Nat.le_of_eq (Queue.countP_modify_of_same _ _ _ _ fun _ => rfl)) bound
    | release indexed present held =>
      refine Nat.le_trans (Queue.countP_modify_le _ distinct _ _ ?_) bound
      intro s member named counted
      cases ((Slot.heldAt_iff email _ _).mp counted).1
    | claim room first granted =>
      refine Nat.le_trans (Queue.countP_modify_le _ distinct _ _ ?_) bound
      intro s member named counted
      have student := ((Slot.heldAt_iff email _ _).mp counted).1
      exact absurd (Option.some.inj student) (exclusive own.symm)
  · rw [held, r.rows_apply_other e own]
    exact bound

theorem held_keeps (queue : Id) (email : String) (start : Instant) :
    Keeps (fun r => r.Orderly ∧ r.held queue email (Span.contains ⟨start, farFuture⟩) ≤ 1)
      (fun _ c => c.ExclusiveFor queue email start) where
  same := by
    intro r s same holds
    rw [held_of_same same]
    exact ⟨holds.1.of_same same, holds.2⟩
  apply := fun admitted exclusive fresh holds =>
    ⟨holds.1.apply _ fresh, held_apply_le holds.1 admitted exclusive holds.2⟩

end

end Register

namespace Store

/-- Calls on behalf of any clients, in any order and answered in any way, leave a student at most one row of a queue
from an instant on, if none claims for them and each that inserts a row of theirs asks for no other from then on. -/
theorem calls_book_once {s : Store} {calls : List Call} {queue : Id} {email : String} {start : Instant}
    (orderly : s.register.Orderly) (supplied : s.Supplied calls)
    (exclusive : ∀ c ∈ calls, c.ExclusiveFor queue email start)
    (single : s.register.held queue email (Span.contains ⟨start, farFuture⟩) ≤ 1) (n : Nat) :
    (s.after (calls.take n)).register.Orderly ∧
      (s.after (calls.take n)).register.held queue email (Span.contains ⟨start, farFuture⟩) ≤ 1 := by
  rw [← List.take_append_drop n calls] at supplied
  refine keeps_after (Register.held_keeps queue email start) ?_ supplied.of_append.1 ⟨orderly, single⟩
  exact fun c member _ => exclusive c (List.mem_of_mem_take member)

def hastyCalls : List Call :=
  let details : Details := ⟨"Ada", "limits", "room 1", .zero, .zero⟩
  let row (id : Nat) (time : Instant) (student : String) : Slot :=
    ⟨Id.ofNat id, Id.ofNat 7, 0, time, 30, some student, details⟩
  let alone (w : Span) : Guard := ⟨w, 2, some 1699998200000⟩
  let wednesday : Span := ⟨1700006400000, 1700092800000⟩
  let thursday : Span := ⟨1700092800000, 1700179200000⟩
  [.insert (row 1 1700006400000 "ada@x.edu") (alone wednesday),
    .insert (row 2 1700092800000 "ada@x.edu") (alone thursday),
    .claim (Id.ofNat 7) wednesday 0 2 "bob@x.edu",
    .insert (row 3 1700006400000 "bob@x.edu") ⟨wednesday, 2, none⟩,
    .release (Id.ofNat 1) "ada@x.edu",
    .insert (row 4 1700092800000 "ada@x.edu") (alone thursday),
    .insert (row 5 1700006400000 "ada@x.edu") (alone wednesday)]

theorem calls_book_once_hastyCalls :
    ((Store.open {}).after (hastyCalls.take 2)).register.held (Id.ofNat 7) "ada@x.edu"
        (Span.contains ⟨1700000000000, farFuture⟩) = 1 ∧
      ((Store.open {}).after (hastyCalls.take 5)).register.held (Id.ofNat 7) "ada@x.edu"
        (Span.contains ⟨1700000000000, farFuture⟩) = 0 ∧
      ((Store.open {}).after (hastyCalls.take 7)).register.held (Id.ofNat 7) "ada@x.edu"
        (Span.contains ⟨1700000000000, farFuture⟩) = 1 ∧
      ((Store.open {}).after (hastyCalls.take 7)).register.held (Id.ofNat 7) "ada@x.edu"
        (Span.contains ⟨1700000000000, farFuture⟩) ≤ 1 := by
  have exclusive : ∀ c ∈ hastyCalls, c.ExclusiveFor (Id.ofNat 7) "ada@x.edu" 1700000000000 := by
    simp [hastyCalls, Call.ExclusiveFor]
  refine ⟨by decide +kernel, by decide +kernel, by decide +kernel, ?_⟩
  exact (calls_book_once Register.orderly_empty (supplied_of_fresh (Register.fresh_empty (by decide +kernel))) exclusive
    (by decide +kernel) 7).2

end Store

end Bookings
