import Bookings.Store.Faults
import Bookings.Proofs.Store.Admission

namespace Bookings

def Call.reads : Call → Bool
  | .fetch _ | .within .. | .atTimeslot .. | .claimedBy .. | .scheduleFor .. | .allSchedules _ => true
  | _ => false

theorem Call.acknowledges_of_reads {c : Call} (reads : c.reads = true) (a : c.Answer) : c.acknowledges a = false := by
  cases c <;> first | rfl | contradiction

def Call.listed : (c : Call) → c.Answer → List Slot
  | .within .., .ok rows => rows
  | .atTimeslot .., .ok rows => rows
  | .claimedBy .., .ok rows => rows
  | _, _ => []

namespace Store

theorem outcome_of_reads (s : Store) {c : Call} (reads : c.reads = true) (a : c.Answer) : s.Outcome c a s :=
  .kept (Register.Same.refl _) rfl (Call.acknowledges_of_reads reads a)

theorem answerThrough_cases (s : Store) (fault : Fault) (c : Call) :
    (∃ e, s.answerThrough fault c = (.error e, s)) ∨
      (c.reads = true ∧ (s.answerThrough fault c).2 = s) ∨ s.answerThrough fault c = s.answer c := by
  cases fault with
  | fails e => exact .inl ⟨e, rfl⟩
  | findsNothing => cases c <;> first | exact .inr (.inl ⟨rfl, rfl⟩) | exact .inr (.inr rfl)
  | showsStudent student => cases c <;> first | exact .inr (.inl ⟨rfl, rfl⟩) | exact .inr (.inr rfl)

theorem answerWith_cases (s : Store) (faults : Faults) (c : Call) :
    (∃ e, s.answerWith faults c = (.error e, s)) ∨
      (c.reads = true ∧ (s.answerWith faults c).2 = s) ∨ s.answerWith faults c = s.answer c := by
  rw [answerWith]
  split
  · exact s.answerThrough_cases _ c
  · exact .inr (.inr rfl)

theorem outcome_answerWith (s : Store) (faults : Faults) (c : Call) :
    s.Outcome c (s.answerWith faults c).1 (s.answerWith faults c).2 := by
  rcases s.answerWith_cases faults c with ⟨e, h⟩ | ⟨reads, h⟩ | h
  · rw [h]
    exact .kept (Register.Same.refl _) rfl (c.acknowledges_error e)
  · rw [h]
    exact s.outcome_of_reads reads _
  · rw [h]
    exact s.outcome c

theorem outcome_of_answerWith {s t : Store} {faults : Faults} {c : Call} {a : c.Answer}
    (asked : s.answerWith faults c = (a, t)) : s.Outcome c a t := by
  have outcome := s.outcome_answerWith faults c
  rw [asked] at outcome
  exact outcome

/-- Faults hide rows from who lists them, but show no others. -/
theorem listed_answerWith (s : Store) (faults : Faults) (c : Call) :
    (c.listed (s.answerWith faults c).1).Sublist (c.listed (s.answer c).1) := by
  unfold answerWith
  cases faults c.capability with
  | none => exact .refl _
  | some fault =>
    cases fault with
    | fails e => cases c <;> exact List.nil_sublist _
    | findsNothing => cases c <;> exact List.nil_sublist _
    | showsStudent student => cases c <;> exact .refl _

theorem scheduleFor_eq_ok {s : Store} {faults : Faults} {queue : Id} {weekday : UInt8} {found : Option Schedule}
    (answered : (s.answerWith faults (.scheduleFor queue weekday)).1 = .ok found) :
    found = s.register.schedule? queue weekday := by
  rw [answerWith] at answered
  split at answered
  · rename_i fault _
    cases fault <;> cases answered
    all_goals rfl
  · cases answered
    rfl

end Store

end Bookings
