import Bookings.Proofs.Queue.Seats
import Bookings.Proofs.Store.Answers

namespace Bookings

def Slot.placed (times : Instant → Bool) (timeslot : UInt32) (s : Slot) : Bool :=
  s.timeslot = timeslot && times s.scheduledTime

namespace Queue

def present (q : Queue) (times : Instant → Bool) (timeslot : UInt32) : Nat :=
  q.rows.countP (Slot.placed times timeslot)

variable {q : Queue} {timeslot : UInt32} {w : Span}

theorem countP_within (sorted : q.Sorted) :
    (q.within w).countP (fun row => row.timeslot = timeslot) = q.present w.contains timeslot := by
  rw [within_eq_filter sorted, List.countP_filter, present]
  rfl

theorem vacant_of_taken_lt (sorted : q.Sorted) (fewer : q.taken w.contains timeslot < q.present w.contains timeslot) :
    ∃ row, (q.atTimeslot w timeslot).find? (fun row => !row.isClaimed) = some row := by
  apply Option.isSome_iff_exists.mp
  rw [List.find?_isSome]
  apply Decidable.byContradiction
  intro none
  have claimed : ∀ row ∈ q.atTimeslot w timeslot, row.isClaimed = true := by
    intro row member
    cases held : row.isClaimed with
    | true => rfl
    | false => exact absurd ⟨row, member, by rw [held]; rfl⟩ none
  have all := List.countP_eq_length.mpr claimed
  rw [countP_atTimeslot timeslot sorted, atTimeslot, ← List.countP_eq_length_filter, countP_within sorted] at all
  exact absurd all (Nat.ne_of_lt fewer)

end Queue

/-- How many rows the answer to a call has added at a timeslot of a queue at one of some times. -/
def Call.adds (queue : Id) (times : Instant → Bool) (timeslot : UInt32) : (c : Call) → c.Answer → Nat
  | .insert slot _, .ok _ => if slot.queue = queue ∧ slot.placed times timeslot = true then 1 else 0
  | .publish home slots, .ok count => if home = queue ∧ count ≠ 0 then slots.countP (Slot.placed times timeslot) else 0
  | _, _ => 0

namespace Register

def present (r : Register) (queue : Id) (times : Instant → Bool) (timeslot : UInt32) : Nat :=
  (r.content queue).present times timeslot

variable {r : Register} {queue : Id} {times : Instant → Bool} {timeslot : UInt32}

theorem present_of_same {s : Register} (same : r.Same s) (queue : Id) (times : Instant → Bool) (timeslot : UInt32) :
    r.present queue times timeslot = s.present queue times timeslot := by
  rw [present, same.content, present]

theorem present_slotsPublished (r : Register) (queue : Id) (slots : List Slot) (times : Instant → Bool)
    (timeslot : UInt32) :
    (r.apply (.slotsPublished queue (slots.map (Slot.published queue)))).present queue times timeslot =
      r.present queue times timeslot + slots.countP (Slot.placed times timeslot) := by
  have grown : (r.apply (.slotsPublished queue (slots.map (Slot.published queue)))).content queue =
      (slots.map (Slot.published queue)).foldl Queue.insert (r.content queue) :=
    r.content_apply_self (.slotsPublished queue (slots.map (Slot.published queue)))
  have counted : (slots.map (Slot.published queue)).countP (Slot.placed times timeslot) =
      slots.countP (Slot.placed times timeslot) := by
    rw [List.countP_map]
    rfl
  rw [present, Queue.present, grown, (Queue.rows_foldl_insert_perm _ _).countP_eq, List.countP_append, counted,
    Nat.add_comm]
  rfl

theorem Admits.present_apply {c : Call} {e : Event} {a : c.Answer} (admitted : r.Admits c e a) (queue : Id)
    (times : Instant → Bool) (timeslot : UInt32) :
    (r.apply e).present queue times timeslot = r.present queue times timeslot + c.adds queue times timeslot a := by
  have changed : ∀ id f, (∀ s : Slot, (f s).placed times timeslot = s.placed times timeslot) →
      ((r.content queue).modify id f).rows.countP (Slot.placed times timeslot) = r.present queue times timeslot + 0 :=
    fun id f same => Queue.countP_modify_of_same _ _ id f same
  by_cases own : queue = e.queue
  · cases admitted with
    | replaceSchedule vacant =>
      rw [present, content_apply, if_pos own]
      rfl
    | insert small room free =>
      rename_i slot guard
      change queue = slot.queue at own
      subst own
      have counts : Call.adds slot.queue times timeslot (.insert slot guard) (.ok slot) =
          if slot.placed times timeslot = true then 1 else 0 := by simp only [Call.adds, true_and]
      have grown := Queue.countP_insert (Slot.placed times timeslot) (r.content slot.queue) slot
      rw [← r.rows_slotCreated] at grown
      rw [counts]
      exact grown
    | publish filled small =>
      rename_i home slots
      change queue = home at own
      subst own
      have some : slots.length ≠ 0 := fun none => filled (List.eq_nil_of_length_eq_zero none)
      rw [Call.adds, if_pos ⟨rfl, some⟩]
      exact present_slotsPublished r _ slots times timeslot
    | edit indexed there held =>
      rw [present, content_apply, if_pos own]
      exact changed _ _ fun _ => rfl
    | release indexed there held =>
      rw [present, content_apply, if_pos own]
      exact changed _ _ fun _ => rfl
    | claim room first taken =>
      rw [present, content_apply, if_pos own]
      exact changed _ _ fun _ => rfl
  · have none : c.adds queue times timeslot a = 0 := by
      cases admitted with
      | insert small room free => exact if_neg fun both => own both.1.symm
      | publish filled small => exact if_neg fun both => own both.1.symm
      | _ => rfl
    rw [none, present, content_apply_other r e own]
    rfl

end Register

theorem Call.adds_of_quiet {c : Call} {a : c.Answer} (quiet : c.acknowledges a = false) (queue : Id)
    (times : Instant → Bool) (timeslot : UInt32) : c.adds queue times timeslot a = 0 := by
  cases c with
  | insert slot guard => cases a with
    | ok row => contradiction
    | error e => rfl
  | publish home slots => cases a with
    | ok count =>
      have zero : count = 0 := by simpa [acknowledges] using quiet
      exact if_neg fun both => both.2 zero
    | error e => rfl
  | _ => cases a <;> rfl

theorem Store.present_answerWith (s : Store) (faults : Faults) (c : Call) (queue : Id) (times : Instant → Bool)
    (timeslot : UInt32) :
    (s.answerWith faults c).2.register.present queue times timeslot =
      s.register.present queue times timeslot + c.adds queue times timeslot (s.answerWith faults c).1 := by
  rcases (s.outcome_answerWith faults c).quiet_or_applied with ⟨quiet, same⟩ | ⟨e, admitted, same⟩
  · rw [Register.present_of_same same, Call.adds_of_quiet quiet, Nat.add_zero]
  · rw [Register.present_of_same same, admitted.present_apply]

theorem Store.sorted_answerWith {s : Store} (sorted : ∀ queue, (s.register.content queue).Sorted) (faults : Faults)
    (c : Call) (queue : Id) : ((s.answerWith faults c).2.register.content queue).Sorted := by
  rcases (s.outcome_answerWith faults c).quiet_or_applied with ⟨_, same⟩ | ⟨e, _, same⟩
  · rw [same.content]
    exact sorted queue
  · rw [same.content]
    exact Register.sorted_apply sorted e queue

namespace Register

theorem decide_publish {r : Register} {queue : Id} {slots : List Slot} (filled : slots ≠ [])
    (small : (r.rows queue).length + slots.length ≤ maxSlotsPerQueue) :
    r.decide (.publish queue slots) =
      .record (.slotsPublished queue (slots.map (Slot.published queue))) fun _ => .ok slots.length := by
  show r.decidePublish queue slots = _
  unfold decidePublish
  rw [if_neg (by simpa using filled), slotCount_eq, if_neg (Nat.not_lt.mpr small)]
  simp only [List.length_map]
  rfl

end Register

namespace Store

variable {s : Store} {queue : Id} {slots : List Slot}

theorem answer_publish_nil (s : Store) (queue : Id) : s.answer (.publish queue []) = (.ok 0, s) := rfl

section

variable (housed : (s.register.queue? queue).isSome = true) (filled : slots ≠ [])

include housed filled

theorem prepare_publish : s.prepare (.publish queue slots) = .ok s := by
  have occupied : slots.isEmpty = false := List.isEmpty_eq_false_iff.mpr filled
  unfold prepare
  simp only [Call.home?, occupied, Register.prepare, housed, if_true, Bool.false_eq_true, if_false]

theorem answer_publish_crowded (crowded : maxSlotsPerQueue < (s.register.rows queue).length + slots.length) :
    s.answer (.publish queue slots) = (.error (.limitExceeded "too many appointments in queue"), s) := by
  have decided : s.register.decide (.publish queue slots) =
      .answer (.error (.limitExceeded "too many appointments in queue")) := by
    show s.register.decidePublish queue slots = _
    unfold Register.decidePublish
    rw [if_neg (by simpa using filled), Register.slotCount_eq, if_pos crowded]
  unfold answer
  rw [prepare_publish housed filled]
  dsimp only
  rw [decided, settle]

theorem answer_publish (working : s.journal.Working)
    (small : (s.register.rows queue).length + slots.length ≤ maxSlotsPerQueue) :
    ∃ k, k.Working ∧ s.answer (.publish queue slots) =
      (.ok slots.length, ⟨s.register.apply (.slotsPublished queue (slots.map (Slot.published queue))), k⟩) :=
  answer_of_record working (prepare_publish housed filled) (Register.decide_publish filled small)

end

theorem publish_eq_ok {count : Nat} {t : Store} (housed : (s.register.queue? queue).isSome = true)
    (asked : s.answer (.publish queue slots) = (.ok count, t)) :
    count = slots.length ∧ (slots = [] ∧ t = s ∨ slots ≠ [] ∧
      t.register = s.register.apply (.slotsPublished queue (slots.map (Slot.published queue)))) := by
  by_cases filled : slots = []
  · subst filled
    rw [answer_publish_nil] at asked
    cases asked
    exact ⟨rfl, .inl ⟨rfl, rfl⟩⟩
  · by_cases small : (s.register.rows queue).length + slots.length ≤ maxSlotsPerQueue
    · obtain ⟨register, journal⟩ := s
      unfold answer at asked
      rw [prepare_publish housed filled] at asked
      dsimp only at asked
      rw [Register.decide_publish filled small, settle, commit] at asked
      cases logged : journal.write (.slotsPublished queue (slots.map (Slot.published queue))) with
      | mk result after =>
        rw [logged] at asked
        cases result with
        | ok done =>
          cases asked
          exact ⟨rfl, .inr ⟨filled, rfl⟩⟩
        | error cause => cases asked
    · rw [answer_publish_crowded housed filled (Nat.lt_of_not_le small)] at asked
      cases asked

theorem answer_claim (working : s.journal.Working) {w : Span} {timeslot : UInt32} {capacity : Nat} {row : Slot}
    (housed : (s.register.queue? queue).isSome = true)
    (room : hasRoom (openSeats capacity ((s.register.content queue).atTimeslot w timeslot)) = true)
    (first : ((s.register.content queue).atTimeslot w timeslot).find? (fun row => !row.isClaimed) = some row)
    (email : String) :
    ∃ slot t, s.answer (.claim queue w timeslot capacity email) = (.ok slot, t) := by
  obtain ⟨slot, taken⟩ := Register.slot?_setStudent _ (Register.mem_of_find?_atTimeslot first) (some email)
  have changed : (s.register.apply (.slotClaimed row.id queue email)).content queue =
      (s.register.content queue).setStudent row.id (some email) :=
    s.register.content_apply_self (.slotClaimed row.id queue email)
  obtain ⟨q, stored⟩ := Option.isSome_iff_exists.mp housed
  have held : s.register.content queue = q := by rw [Register.content, stored, Option.getD_some]
  have decided : s.register.decide (.claim queue w timeslot capacity email) =
      .record (.slotClaimed row.id queue email) fun r => r.slotIn queue row.id := by
    rw [held] at room first
    show s.register.decideClaim queue w timeslot capacity email = _
    unfold Register.decideClaim
    simp only [stored, room, first, Bool.not_true, Bool.false_eq_true, if_false]
  obtain ⟨k, _, answered⟩ := answer_of_record working rfl decided
  refine ⟨slot, ⟨s.register.apply (.slotClaimed row.id queue email), k⟩, ?_⟩
  rw [answered, Register.slotIn_eq, changed, taken]

end Store

end Bookings
