import Bookings.Proofs.Store.Run

namespace Bookings

namespace Queue

def Placed (q : Queue) : Prop :=
  ∀ (weekday : Nat) (schedule : Schedule), q.schedules[weekday]? = some (some schedule) →
    schedule.weekday.toNat = weekday

theorem placed_empty : empty.Placed := by
  intro weekday schedule stored
  rw [empty, Vector.getElem?_replicate] at stored
  split at stored <;> cases stored

theorem Placed.setSchedule {q : Queue} (placed : q.Placed) (schedule : Schedule) :
    (q.setSchedule schedule.weekday schedule).Placed := by
  intro weekday other stored
  rw [Queue.setSchedule, Vector.getElem?_setIfInBounds] at stored
  split at stored
  · rename_i same
    split at stored
    · cases stored
      exact same
    · cases stored
  · exact placed weekday other stored

theorem Placed.apply {q : Queue} (placed : q.Placed) (e : Event) : (q.apply e).Placed := by
  by_cases replaced : ∃ queue schedule, e = .scheduleReplaced queue schedule
  · obtain ⟨queue, schedule, rfl⟩ := replaced
    exact placed.setSchedule schedule
  · intro weekday schedule stored
    rw [q.schedules_apply fun queue schedule same => replaced ⟨queue, schedule, same⟩] at stored
    exact placed weekday schedule stored

end Queue

def Event.Addressed (e : Event) : Prop := ∀ slot ∈ e.created, slot.queue = e.queue

namespace Register

/-- Rows are in order of time, name the queue that holds them and differ by identifier across all queues, the
index knows them and no others, and each schedule stands under its own weekday. -/
structure WellFormed (r : Register) : Prop where
  orderly : r.Orderly
  named : ∀ queue, ∀ row ∈ r.rows queue, row.queue = queue
  indexed : ∀ id queue, r.homes[id]? = some queue ↔ id ∈ (r.rows queue).map Slot.id
  placed : ∀ queue, (r.content queue).Placed

theorem Admits.addressed {r : Register} {c : Call} {e : Event} {a : c.Answer} (admitted : r.Admits c e a) :
    e.Addressed := by
  intro slot created
  cases admitted with
  | insert small room free => exact congrArg Slot.queue (List.mem_singleton.mp created)
  | publish filled small =>
    obtain ⟨template, _, rfl⟩ := List.mem_map.mp created
    rfl
  | _ => exact absurd created List.not_mem_nil

theorem wellFormed_empty : empty.WellFormed where
  orderly := orderly_empty
  named := by
    intro queue row member
    rw [rows_empty] at member
    contradiction
  indexed := by
    intro id queue
    rw [rows_empty, empty, Std.ExtTreeMap.getElem?_empty]
    simp
  placed := by
    intro queue
    rw [content_empty]
    exact Queue.placed_empty

theorem WellFormed.of_same {r s : Register} (formed : s.WellFormed) (same : r.Same s) : r.WellFormed where
  orderly := formed.orderly.of_same same
  named := by
    intro queue
    rw [same.rows]
    exact formed.named queue
  indexed := by
    intro id queue
    rw [same.rows, same.homes]
    exact formed.indexed id queue
  placed := by
    intro queue
    rw [same.content]
    exact formed.placed queue

theorem getElem?_foldl_insert (homes : IdMap Id) (slots : List Slot) (queue id : Id) :
    (slots.foldl (fun homes slot => homes.insert slot.id queue) homes)[id]? =
      if id ∈ slots.map Slot.id then some queue else homes[id]? := by
  induction slots generalizing homes with
  | nil => simp
  | cons slot slots ih =>
    rw [List.foldl_cons, ih, Std.ExtTreeMap.getElem?_insert, List.map_cons]
    simp only [Std.LawfulEqCmp.compare_eq_iff_eq, List.mem_cons]
    by_cases later : id ∈ slots.map Slot.id
    · simp [later]
    · by_cases first : slot.id = id
      · simp [later, first]
      · simp [later, first, Ne.symm first]

theorem WellFormed.indexed_apply {r : Register} (formed : r.WellFormed) (e : Event) (fresh : r.Fresh e.newIds)
    (id queue : Id) : (r.apply e).homes[id]? = some queue ↔ id ∈ ((r.apply e).rows queue).map Slot.id := by
  have grown : id ∈ ((r.apply e).rows queue).map Slot.id ↔
      id ∈ (r.rows queue).map Slot.id ∨ queue = e.queue ∧ id ∈ e.newIds := by
    rw [rows, content_apply]
    split
    · rename_i own
      rw [(Queue.ids_apply_perm _ e).mem_iff, List.mem_append, or_comm]
      simp only [own, true_and, rows]
    · rename_i other
      simp only [other, false_and, or_false, rows]
  -- The index has changed for new identifiers only, and these no row had.
  rw [grown, homes_apply, getElem?_foldl_insert]
  split
  · rename_i new
    have unused : id ∉ (r.rows queue).map Slot.id := by
      intro old
      obtain ⟨row, present, same⟩ := List.mem_map.mp old
      exact fresh.unused id new queue row present same
    constructor
    · intro own
      cases own
      exact .inr ⟨rfl, new⟩
    · intro present
      exact congrArg some (present.resolve_left unused).1.symm
  · rename_i old
    rw [formed.indexed id queue]
    exact ⟨.inl, fun present => present.resolve_right fun new => old new.2⟩

theorem WellFormed.apply {r : Register} (formed : r.WellFormed) {e : Event} (fresh : r.Fresh e.newIds)
    (addressed : e.Addressed) : (r.apply e).WellFormed where
  orderly := formed.orderly.apply e fresh
  named := by
    intro queue row member
    rcases mem_rows_apply member with ⟨old, present, changed⟩ | ⟨own, created⟩
    · rw [changed]
      exact formed.named queue old present
    · rw [own]
      exact addressed row created
  indexed := formed.indexed_apply e fresh
  placed := by
    intro queue
    rw [content_apply]
    split
    · exact (formed.placed queue).apply e
    · exact formed.placed queue

theorem WellFormed.applyAll {r : Register} {es : List Event} (formed : r.WellFormed)
    (fresh : r.Fresh (es.flatMap Event.newIds)) (addressed : ∀ e ∈ es, e.Addressed) : (r.applyAll es).WellFormed := by
  induction es generalizing r with
  | nil => exact formed
  | cons e es ih =>
    obtain ⟨first, rest⟩ := List.forall_mem_cons.mp addressed
    rw [List.flatMap_cons] at fresh
    exact ih (formed.apply fresh.left first) fresh.apply rest

theorem WellFormed.same {r s : Register} (formed : r.WellFormed) (other : s.WellFormed)
    (content : ∀ queue, r.content queue = s.content queue) : r.Same s := by
  refine ⟨content, Std.ExtTreeMap.ext_getElem? fun id => ?_⟩
  apply Option.ext
  intro queue
  rw [formed.indexed, other.indexed, rows, content, rows]

theorem wellFormed_keeps : Keeps WellFormed fun _ _ => True where
  same := fun same formed => formed.of_same same
  apply := fun admitted _ fresh formed => formed.apply fresh admitted.addressed

end Register

end Bookings
