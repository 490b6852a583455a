import Bookings.Proofs.Queue.Seats
import Bookings.Proofs.Store.Run

namespace Bookings

def Call.CountsAt (queue : Id) (times : Instant → Bool) (timeslot : UInt32) (limit : Nat) : Call → Prop
  | .insert slot guard =>
    slot.queue = queue → slot.timeslot = timeslot → times slot.scheduledTime = true →
      guard.window.contains = times ∧ guard.capacity ≤ limit
  | .claim claimed v at_ capacity _ =>
    claimed = queue → at_ = timeslot → (∃ t, times t = true ∧ v.contains t = true) →
      v.contains = times ∧ capacity ≤ limit
  | _ => True

def Span.Overlaps (v w : Span) : Prop := ∃ t, v.contains t = true ∧ w.contains t = true

/-- A call that could take a seat of `queue` at `timeslot` in `w` counts the seats taken in exactly `w`
and asks for at most `limit`. -/
def Call.Counts (queue : Id) (w : Span) (timeslot : UInt32) (limit : Nat) : Call → Prop
  | .insert slot guard =>
    slot.queue = queue → slot.timeslot = timeslot → w.contains slot.scheduledTime = true →
      guard.window = w ∧ guard.capacity ≤ limit
  | .claim claimed v at_ capacity _ =>
    claimed = queue → at_ = timeslot → w.Overlaps v → v = w ∧ capacity ≤ limit
  | _ => True

theorem Call.Counts.at_contains {queue : Id} {w : Span} {timeslot : UInt32} {limit : Nat} {c : Call}
    (counts : c.Counts queue w timeslot limit) : c.CountsAt queue w.contains timeslot limit := by
  cases c with
  | insert slot guard =>
    intro own at_ inside
    obtain ⟨same, capacity⟩ := counts own at_ inside
    exact ⟨congrArg Span.contains same, capacity⟩
  | claim claimed v at_ capacity email =>
    intro own slotted shared
    obtain ⟨same, bound⟩ := counts own slotted shared
    exact ⟨congrArg Span.contains same, bound⟩
  | _ => exact True.intro

namespace Register

def taken (r : Register) (queue : Id) (times : Instant → Bool) (timeslot : UInt32) : Nat :=
  (r.content queue).taken times timeslot

theorem taken_of_same {r s : Register} (same : r.Same s) (queue : Id) (times : Instant → Bool) (timeslot : UInt32) :
    r.taken queue times timeslot = s.taken queue times timeslot := by
  rw [taken, same.content, taken]

section

variable {r : Register} {queue : Id} {times : Instant → Bool} {timeslot : UInt32} {limit : Nat}

theorem taken_insert_le (orderly : r.Orderly) {slot : Slot} {guard : Guard}
    (counts : Call.CountsAt queue times timeslot limit (.insert slot guard)) (own : queue = slot.queue)
    (room : hasRoom (openSeats guard.capacity
      ((r.content slot.queue).atTimeslot guard.window slot.timeslot)) = true)
    (bound : r.taken queue times timeslot ≤ limit) :
    ((r.content queue).insert slot).taken times timeslot ≤ limit := by
  by_cases seated : slot.seated times timeslot = true
  · obtain ⟨_, at_, inside⟩ := (slot.seated_iff times timeslot).mp seated
    obtain ⟨counted, capacity⟩ := counts own.symm at_ inside
    rw [Queue.hasRoom_atTimeslot_iff slot.timeslot (orderly.sorted slot.queue), counted, at_, ← own] at room
    rw [Queue.taken_insert, if_pos seated]
    omega
  · rw [Queue.taken_insert_unseated times timeslot _ (Bool.eq_false_iff.mpr seated)]
    exact bound

theorem taken_claim_le (orderly : r.Orderly) {v : Span} {at_ : UInt32} {capacity : Nat} {email : String}
    {row : Slot} (counts : Call.CountsAt queue times timeslot limit (.claim queue v at_ capacity email))
    (room : hasRoom (openSeats capacity ((r.content queue).atTimeslot v at_)) = true)
    (first : ((r.content queue).atTimeslot v at_).find? (fun row => !row.isClaimed) = some row)
    (bound : r.taken queue times timeslot ≤ limit) :
    ((r.content queue).setStudent row.id (some email)).taken times timeslot ≤ limit := by
  have sorted := orderly.sorted queue
  have distinct := orderly.distinct queue
  have member := List.mem_of_find?_eq_some first
  rw [Queue.atTimeslot, Queue.within_eq_filter sorted, List.mem_filter, List.mem_filter,
    decide_eq_true_eq] at member
  obtain ⟨⟨present, inside⟩, slotted⟩ := member
  by_cases seat : at_ = timeslot ∧ ∃ t, times t = true ∧ v.contains t = true
  · obtain ⟨same, capacity⟩ := counts rfl seat.1 seat.2
    rw [Queue.hasRoom_atTimeslot_iff at_ sorted, same, seat.1] at room
    have grown := Queue.taken_modify_le_succ times timeslot (r.content queue) row.id
      fun s => { s with student := some email }
    change (r.content queue).taken times timeslot ≤ limit at bound
    exact Nat.le_trans grown (by omega)
  · -- The claimed row has its seat elsewhere, and no other row has its identifier.
    have elsewhere : ∀ s ∈ (r.content queue).rows, s.id = row.id →
        ({ s with student := some email } : Slot).seated times timeslot = true →
          s.seated times timeslot = true := by
      intro s other named seated
      have same : s = row := List.inj_on_of_nodup_map distinct other present named
      subst same
      obtain ⟨_, at_eq, contained⟩ := (Slot.seated_iff times timeslot _).mp seated
      exact absurd ⟨slotted.symm.trans at_eq, _, contained, inside⟩ seat
    exact Nat.le_trans (Queue.taken_modify_le times timeslot distinct row.id _ elsewhere) bound

theorem taken_apply_le (orderly : r.Orderly) {c : Call} {e : Event} {a : c.Answer} (admitted : r.Admits c e a)
    (counts : c.CountsAt queue times timeslot limit) (bound : r.taken queue times timeslot ≤ limit) :
    (r.apply e).taken queue times timeslot ≤ limit := by
  by_cases own : queue = e.queue
  · rw [taken, content_apply, if_pos own]
    cases admitted with
    | replaceSchedule vacant => exact bound
    | insert small room free => exact taken_insert_le orderly counts own room bound
    | publish filled small =>
      refine Nat.le_trans (Nat.le_of_eq (Queue.taken_foldl_insert times timeslot _ _ ?_)) bound
      intro s published
      obtain ⟨slot, _, rfl⟩ := List.mem_map.mp published
      rfl
    | edit indexed present held =>
      exact Nat.le_trans (Nat.le_of_eq (Queue.taken_modify_of_same times timeslot _ _ _ fun _ => rfl)) bound
    | release indexed present held =>
      refine Nat.le_trans (Queue.taken_modify_le times timeslot (orderly.distinct queue) _ _ ?_) bound
      intro s member named seated
      exact absurd ((Slot.seated_iff times timeslot _).mp seated).1 Bool.false_ne_true
    | claim room first granted =>
      subst own
      exact taken_claim_le orderly counts room first bound
  · rw [taken, content_apply_other r e own]
    exact bound

theorem taken_keeps (queue : Id) (times : Instant → Bool) (timeslot : UInt32) (limit : Nat) :
    Keeps (fun r => r.Orderly ∧ r.taken queue times timeslot ≤ limit)
      (fun _ c => c.CountsAt queue times timeslot limit) where
  same := by
    intro r s same holds
    rw [taken_of_same same]
    exact ⟨holds.1.of_same same, holds.2⟩
  apply := fun admitted counts fresh holds =>
    ⟨holds.1.apply _ fresh, taken_apply_le holds.1 admitted counts holds.2⟩

end

end Register

end Bookings
