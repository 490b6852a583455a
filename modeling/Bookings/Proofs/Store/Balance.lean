import Bookings.Proofs.Store.Answers
import Bookings.Proofs.Store.Holdings
import Bookings.Proofs.Store.WellFormed

namespace Bookings

/-- How many rows of a queue an answered call gives to a student, given the queue of each row. -/
def Call.gain (homes : IdMap Id) (queue : Id) (email : String) : (c : Call) → c.Answer → Int
  | .insert slot _, .ok _ => if slot.queue = queue ∧ slot.student = some email then 1 else 0
  | .claim claimed _ _ _ student, .ok _ => if claimed = queue ∧ student = email then 1 else 0
  | .release id student, .ok true => if homes[id]? = some queue ∧ student = email then -1 else 0
  | _, _ => 0

theorem Call.gain_of_quiet {c : Call} {a : c.Answer} (homes : IdMap Id) (queue : Id) (email : String)
    (quiet : c.acknowledges a = false) : c.gain homes queue email a = 0 := by
  cases a with
  | error e => cases c <;> rfl
  | ok result =>
    cases c with
    | release id student =>
      have kept : result = false := quiet
      rw [kept]
      rfl
    | _ => first | rfl | contradiction

def Kept (homes later : IdMap Id) : Prop := ∀ (id home : Id), homes[id]? = some home → later[id]? = some home

theorem Kept.refl (homes : IdMap Id) : Kept homes homes := fun _ _ found => found

theorem Kept.trans {homes later last : IdMap Id} (first : Kept homes later) (second : Kept later last) :
    Kept homes last := fun id home found => second id home (first id home found)

theorem Slot.heldAt_eq_decide {row : Slot} {student : String} (held : row.student = some student) (email : String) :
    row.heldAt email (fun _ => true) = decide (student = email) := by
  rw [heldAt, isClaimedBy, held, Bool.and_true]
  rfl

namespace Register

variable {r : Register} {homes : IdMap Id}

theorem held_slotClaimed {home : Id} (distinct : (r.content home).Distinct) {row : Slot} (member : row ∈ r.rows home)
    (vacant : row.student = none) (student : String) (queue : Id) (email : String) :
    (r.apply (.slotClaimed row.id home student)).held queue email (fun _ => true) =
      r.held queue email (fun _ => true) + if home = queue ∧ student = email then 1 else 0 := by
  by_cases own : queue = home
  · have changed := Queue.countP_modify (Slot.heldAt email fun _ => true) distinct member
      fun s => { s with student := some student }
    have before : row.heldAt email (fun _ => true) = false := by
      rw [Slot.heldAt, Slot.isClaimedBy, vacant]
      rfl
    rw [before, Slot.heldAt_eq_decide rfl] at changed
    simp only [decide_eq_true_eq] at changed
    rw [own, held, rows_slotClaimed]
    simp only [true_and]
    exact changed
  · have other : ¬(home = queue ∧ student = email) := fun both => own both.1.symm
    rw [held, r.rows_apply_other (.slotClaimed row.id home student) own, if_neg other]
    rfl

theorem held_slotsPublished (r : Register) (home : Id) (slots : List Slot) (queue : Id) (email : String)
    (times : Instant → Bool) :
    (r.apply (.slotsPublished home (slots.map (Slot.published home)))).held queue email times =
      r.held queue email times := by
  refine r.held_apply_of_countP (.slotsPublished home _) (Queue.countP_foldl_insert _ _ _ ?_) queue
  intro row member
  obtain ⟨slot, _, rfl⟩ := List.mem_map.mp member
  rfl

theorem Admits.held_apply {c : Call} {e : Event} {a : c.Answer} (admitted : r.Admits c e a) (orderly : r.Orderly)
    (kept : Kept r.homes homes) (queue : Id) (email : String) :
    ((r.apply e).held queue email (fun _ => true) : Int) =
      r.held queue email (fun _ => true) + c.gain homes queue email a := by
  cases admitted with
  | replaceSchedule vacant =>
    rw [r.held_apply_of_countP (.scheduleReplaced _ _) rfl]
    exact (Int.add_zero _).symm
  | insert small room free =>
    rename_i slot guard
    rw [held_slotCreated, Call.gain]
    simp only [Slot.heldAt_iff, and_true, eq_comm (a := queue)]
    split <;> simp
  | publish filled small =>
    rw [held_slotsPublished]
    exact (Int.add_zero _).symm
  | edit indexed present held =>
    rw [held_detailsEdited]
    exact (Int.add_zero _).symm
  | release indexed present held =>
    rename_i id home student slot
    obtain ⟨member, rfl⟩ := Queue.mem_of_slot? present
    have released := held_claimReleased (orderly.distinct home) member queue email fun _ => true
    rw [Slot.heldAt_eq_decide held] at released
    rw [Call.gain, kept _ _ indexed]
    simp only [decide_eq_true_eq, Option.some.injEq, eq_comm (a := home)] at released ⊢
    split at released
    · rename_i own
      rw [if_pos own]
      omega
    · rename_i other
      rw [if_neg other]
      omega
  | claim room first taken =>
    rename_i home w timeslot capacity student row slot
    have member := mem_of_find?_atTimeslot first
    have vacant := vacant_of_find? first
    rw [held_slotClaimed (orderly.distinct home) member vacant, Call.gain]
    split <;> simp

theorem ids_apply {e : Event} {queue : Id} {id : Id} (present : id ∈ (r.rows queue).map Slot.id) :
    id ∈ ((r.apply e).rows queue).map Slot.id := by
  by_cases own : queue = e.queue
  · rw [own, rows_apply_self]
    rw [own] at present
    exact (Queue.ids_apply_perm _ e).mem_iff.mpr (List.mem_append_right _ present)
  · rw [rows_apply_other r e own]
    exact present

end Register

namespace Store

variable {s : Store} {faults : Faults} {homes : IdMap Id}

theorem held_answerWith (faults : Faults) (c : Call) (formed : s.register.WellFormed)
    (kept : Kept s.register.homes homes) (queue : Id) (email : String) :
    ((s.answerWith faults c).2.register.held queue email (fun _ => true) : Int) =
      s.register.held queue email (fun _ => true) + c.gain homes queue email (s.answerWith faults c).1 := by
  rcases (s.outcome_answerWith faults c).quiet_or_applied with ⟨quiet, same⟩ | ⟨e, admitted, same⟩
  · rw [Call.gain_of_quiet homes queue email quiet, Register.held_of_same same]
    exact (Int.add_zero _).symm
  · rw [Register.held_of_same same]
    exact admitted.held_apply formed.orderly kept queue email

theorem kept_answerWith {c : Call} (formed : s.register.WellFormed)
    (after : (s.answerWith faults c).2.register.WellFormed) :
    Kept s.register.homes (s.answerWith faults c).2.register.homes := by
  intro id home found
  rw [formed.indexed] at found
  rw [after.indexed]
  rcases (s.outcome_answerWith faults c).quiet_or_applied with ⟨_, same⟩ | ⟨e, _, same⟩
  · rw [same.rows]
    exact found
  · rw [same.rows]
    exact Register.ids_apply found

theorem fetched_home {id : Id} {row : Slot} (formed : s.register.WellFormed)
    (answered : (s.answerWith faults (.fetch id)).1 = .ok row) : s.register.homes[id]? = some row.queue := by
  obtain ⟨home, slot, found, shown⟩ := fetch_shows answered
  obtain ⟨indexed, present⟩ := Register.resolve_eq_ok found
  have named := formed.named home slot (Queue.mem_of_slot? present).1
  rcases shown with rfl | ⟨student, _, rfl⟩
  · rw [indexed, named]
  · rw [indexed]
    exact congrArg some named.symm

end Store

end Bookings
