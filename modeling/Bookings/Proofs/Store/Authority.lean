import Bookings.Proofs.Store.WellFormed

namespace Bookings

namespace Event

def change : Event → Slot → Slot
  | .detailsEdited id _ details, row => if row.id = id then { row with details } else row
  | .claimReleased id _, row => if row.id = id then { row with student := none } else row
  | .slotClaimed id _ email, row => if row.id = id then { row with student := some email } else row
  | _, row => row

def target? : Event → Option Id
  | .detailsEdited id _ _ => some id
  | .claimReleased id _ => some id
  | .slotClaimed id _ _ => some id
  | _ => none

theorem change_of_other {e : Event} {row : Slot} (other : e.target? ≠ some row.id) : e.change row = row := by
  have differs : ∀ {id}, e.target? = some id → row.id ≠ id :=
    fun named same => other (named.trans (congrArg some same.symm))
  cases e with
  | detailsEdited id home details => exact if_neg (differs rfl)
  | claimReleased id home => exact if_neg (differs rfl)
  | slotClaimed id home email => exact if_neg (differs rfl)
  | _ => rfl

end Event

theorem Queue.rows_apply_perm {q : Queue} (distinct : q.Distinct) (e : Event) :
    (q.apply e).rows.Perm (e.created ++ q.rows.map e.change) := by
  have kept : e.target? = none → q.rows.map e.change = q.rows := by
    intro none
    have same : ∀ row ∈ q.rows, e.change row = id row := fun row _ => Event.change_of_other (by rw [none]; nofun)
    rw [List.map_congr_left same, List.map_id]
  cases e with
  | scheduleReplaced queue schedule =>
    rw [kept rfl]
    exact .refl _
  | slotCreated slot =>
    rw [kept rfl]
    exact q.rows_insert_perm slot
  | slotsPublished queue slots =>
    rw [kept rfl]
    exact q.rows_foldl_insert_perm slots
  | detailsEdited id home details => exact .of_eq (rows_modify distinct id _)
  | claimReleased id home => exact .of_eq (rows_modify distinct id _)
  | slotClaimed id home email => exact .of_eq (rows_modify distinct id _)

/-- What a caller may ask of the store: what is done to rows is done in their name, and the rest needs an admin. -/
def Call.Allowed (caller : Caller) : Call → Prop
  | .insert slot _ => slot.student = some caller.email
  | .edit _ email _ => email = caller.email
  | .release _ email => email = caller.email
  | .claim _ _ _ _ email => email = caller.email
  | .replaceSchedule .. => caller.admin = true
  | .publish .. => caller.admin = true
  | _ => True

namespace Register

/-- What is made of a state for the sake of one email: each row becomes what `change` makes of it, which is the row
itself unless it is held under that email or is the one open row that is given to it. Only the privileged replace
schedules, and add more than one row or rows that are not their own. -/
structure Confined (r : Register) (email? : Option String) (privileged : Bool) (added : List Slot)
    (change : Slot → Slot) (t : Register) : Prop where
  rows : ∀ queue, (t.rows queue).Perm (added.filter (fun slot => slot.queue = queue) ++ (r.rows queue).map change)
  held : ∀ queue, ∀ row ∈ r.rows queue, row.isClaimed = true → row.student ≠ email? → change row = row
  vacant : ∃ opened : Option Slot, ∀ queue, ∀ row ∈ r.rows queue, row.isClaimed = false → change row ≠ row →
    opened = some row ∧ ∃ email, email? = some email ∧ change row = { row with student := some email }
  schedules : privileged = false → t.schedule? = r.schedule?
  few : privileged = false → added.length ≤ 1
  own : privileged = false → ∀ slot ∈ added, slot.isClaimed = true ∧ slot.student = email?

variable {r t : Register} {email? : Option String} {privileged : Bool} {added : List Slot} {change : Slot → Slot}

theorem Confined.congr {s : Register} (confined : r.Confined email? privileged added change s) (same : t.Same s) :
    r.Confined email? privileged added change t where
  rows := by
    intro queue
    rw [same.rows]
    exact confined.rows queue
  held := confined.held
  vacant := confined.vacant
  schedules := fun unprivileged => same.schedule?.trans (confined.schedules unprivileged)
  few := confined.few
  own := confined.own

theorem confined_of_same (same : t.Same r) (email? : Option String) (privileged : Bool) :
    r.Confined email? privileged [] id t where
  rows := by
    intro queue
    rw [same.rows, List.map_id]
    exact .refl _
  held := fun _ _ _ _ _ => rfl
  vacant := ⟨none, fun _ _ _ _ changed => absurd rfl changed⟩
  schedules := fun _ => same.schedule?
  few := fun _ => Nat.zero_le 1
  own := fun _ => List.forall_mem_nil _

theorem Confined.stays (confined : r.Confined email? privileged added change t) {queue : Id} {row : Slot}
    (member : row ∈ r.rows queue) (claimed : row.isClaimed = true) (others : row.student ≠ email?) :
    row ∈ t.rows queue := by
  have kept := confined.held queue row member claimed others
  rw [← kept]
  exact (confined.rows queue).mem_iff.mpr (List.mem_append_right _ (List.mem_map_of_mem member))

theorem Confined.trans {s : Register} {further : Slot → Slot} (first : r.Confined email? privileged added change s)
    (kept : ∀ row, change row = row) (second : s.Confined email? privileged [] further t)
    (spared : ∀ slot ∈ added, further slot = slot) : r.Confined email? privileged added further t := by
  have grown : ∀ queue, (s.rows queue).Perm (added.filter (fun slot => slot.queue = queue) ++ r.rows queue) := by
    intro queue
    have rows := first.rows queue
    rw [List.map_congr_left fun row _ => kept row, List.map_id'] at rows
    exact rows
  have still : ∀ {queue row}, row ∈ r.rows queue → row ∈ s.rows queue :=
    fun member => (grown _).mem_iff.mpr (List.mem_append_right _ member)
  obtain ⟨opened, given⟩ := second.vacant
  refine ⟨fun queue => ?_, fun queue row member => second.held queue row (still member),
    ⟨opened, fun queue row member => given queue row (still member)⟩,
    fun unprivileged => (second.schedules unprivileged).trans (first.schedules unprivileged), first.few, first.own⟩
  have rows := (second.rows queue).trans ((grown queue).map further)
  rw [List.map_append, List.map_congr_left fun slot member => spared slot (List.mem_filter.mp member).1,
    List.map_id'] at rows
  exact rows

theorem WellFormed.eq_of_id (formed : r.WellFormed) {queue other : Id} {a b : Slot} (first : a ∈ r.rows queue)
    (second : b ∈ r.rows other) (same : a.id = b.id) : a = b := by
  have indexed := (formed.indexed a.id queue).mpr (List.mem_map_of_mem first)
  have again := (formed.indexed b.id other).mpr (List.mem_map_of_mem second)
  rw [← same, indexed] at again
  cases again
  exact List.inj_on_of_nodup_map (formed.orderly.distinct queue) first second same

variable {caller : Caller} {c : Call} {e : Event} {a : c.Answer}

theorem Admits.target (admitted : r.Admits c e a) (allowed : c.Allowed caller) {id : Id} (named : e.target? = some id) :
    ∃ slot ∈ r.rows e.queue, slot.id = id ∧ (slot.student = some caller.email ∨
      slot.student = none ∧ e.change slot = { slot with student := some caller.email }) := by
  cases admitted with
  | edit indexed present held =>
    cases named
    cases allowed
    obtain ⟨member, same⟩ := Queue.mem_of_slot? present
    exact ⟨_, member, same, .inl held⟩
  | release indexed present held =>
    cases named
    cases allowed
    obtain ⟨member, same⟩ := Queue.mem_of_slot? present
    exact ⟨_, member, same, .inl held⟩
  | claim room first taken =>
    cases named
    cases allowed
    exact ⟨_, mem_of_find?_atTimeslot first, rfl, .inr ⟨vacant_of_find? first, if_pos rfl⟩⟩
  | _ => cases named

theorem Admits.owned (admitted : r.Admits c e a) (allowed : c.Allowed caller) (unprivileged : caller.admin = false) :
    e.created.length ≤ 1 ∧ ∀ slot ∈ e.created, slot.isClaimed = true ∧ slot.student = some caller.email := by
  have denied : caller.admin ≠ true := Bool.eq_false_iff.mp unprivileged
  cases admitted with
  | insert small room free =>
    refine ⟨Nat.le_refl 1, fun slot member => ?_⟩
    cases List.mem_singleton.mp member
    change _ = some caller.email at allowed
    exact ⟨by rw [Slot.isClaimed, allowed, Option.isSome_some], allowed⟩
  | publish filled small => exact absurd allowed denied
  | _ => exact ⟨Nat.zero_le 1, List.forall_mem_nil _⟩

theorem Admits.changed (admitted : r.Admits c e a) (formed : r.WellFormed) (allowed : c.Allowed caller) {queue : Id}
    {row : Slot} (member : row ∈ r.rows queue) (changed : e.change row ≠ row) :
    queue = e.queue ∧ e.target? = some row.id ∧ (row.student = some caller.email ∨
      row.student = none ∧ e.change row = { row with student := some caller.email }) := by
  have named : e.target? = some row.id := Classical.byContradiction fun other => changed (Event.change_of_other other)
  obtain ⟨slot, present, same, fits⟩ := admitted.target allowed named
  cases formed.eq_of_id present member same
  exact ⟨(formed.named queue row member).symm.trans (formed.named e.queue row present), named, fits⟩

theorem Admits.rows_perm (admitted : r.Admits c e a) (formed : r.WellFormed) (allowed : c.Allowed caller) (queue : Id) :
    ((r.apply e).rows queue).Perm
      (e.created.filter (fun slot => slot.queue = queue) ++ (r.rows queue).map e.change) := by
  by_cases own : queue = e.queue
  · have all : e.created.filter (fun slot => slot.queue = queue) = e.created :=
      List.filter_eq_self.mpr fun slot created => decide_eq_true ((admitted.addressed slot created).trans own.symm)
    rw [all, own, rows_apply_self]
    exact Queue.rows_apply_perm (formed.orderly.distinct e.queue) e
  · have none : e.created.filter (fun slot => slot.queue = queue) = [] := by
      refine List.filter_eq_nil_iff.mpr fun slot created there => own ?_
      exact (decide_eq_true_eq.mp there).symm.trans (admitted.addressed slot created)
    have kept : ∀ row ∈ r.rows queue, e.change row = id row := by
      intro row member
      exact Classical.byContradiction fun changed => own (admitted.changed formed allowed member changed).1
    rw [none, rows_apply_other r e own, List.map_congr_left kept, List.map_id]
    exact .refl _

/-- A call that is allowed does nothing that its caller may not do. -/
theorem Admits.confined (admitted : r.Admits c e a) (formed : r.WellFormed) (allowed : c.Allowed caller) :
    r.Confined (some caller.email) caller.admin e.created e.change (r.apply e) where
  rows := admitted.rows_perm formed allowed
  held := by
    intro queue row member claimed others
    apply Classical.byContradiction
    intro changed
    rcases (admitted.changed formed allowed member changed).2.2 with own | ⟨vacant, _⟩
    · exact others own
    · rw [Slot.isClaimed, vacant] at claimed
      contradiction
  vacant := by
    cases named : e.target? with
    | none =>
      refine ⟨none, fun queue row member _ changed => ?_⟩
      rw [(admitted.changed formed allowed member changed).2.1] at named
      contradiction
    | some id =>
      obtain ⟨slot, present, same, _⟩ := admitted.target allowed named
      refine ⟨some slot, fun queue row member opened changed => ?_⟩
      obtain ⟨_, again, fits⟩ := admitted.changed formed allowed member changed
      cases named.symm.trans again
      rcases fits with own | ⟨_, given⟩
      · rw [Slot.isClaimed, own] at opened
        contradiction
      · exact ⟨congrArg some (formed.eq_of_id present member same), caller.email, rfl, given⟩
  schedules := by
    intro unprivileged
    apply schedule?_apply
    intro queue schedule same
    cases admitted <;> cases same
    exact absurd allowed (Bool.eq_false_iff.mp unprivileged)
  few := fun unprivileged => (admitted.owned allowed unprivileged).1
  own := fun unprivileged => (admitted.owned allowed unprivileged).2

end Register

theorem Store.Outcome.confined {s t : Store} {c : Call} {a : c.Answer} {caller : Caller} (outcome : s.Outcome c a t)
    (formed : s.register.WellFormed) (allowed : c.acknowledges a = true → c.Allowed caller) :
    ∃ added change, s.register.Confined (some caller.email) caller.admin added change t.register := by
  rcases outcome.quiet_or_applied with ⟨_, same⟩ | ⟨e, admitted, same⟩
  · exact ⟨[], id, Register.confined_of_same same _ _⟩
  · exact ⟨e.created, e.change, (admitted.confined formed (allowed admitted.acknowledges)).congr same⟩

end Bookings
