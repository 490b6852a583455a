import Bookings.Proofs.Store.WellFormed

namespace Bookings

namespace Queue

theorem rows_foldl_insert {q : Queue} {slots : List Slot}
    (ordered : (q.rows ++ slots).Pairwise fun a b => a.scheduledTime ≤ b.scheduledTime) :
    (slots.foldl insert q).rows = q.rows ++ slots := by
  induction slots generalizing q with
  | nil => exact (List.append_nil q.rows).symm
  | cons slot slots ih =>
    obtain ⟨sorted, _, before⟩ := List.pairwise_append.mp ordered
    have early : ∀ s ∈ q.rows, s.scheduledTime ≤ slot.scheduledTime :=
      fun s member => before s member slot List.mem_cons_self
    have last : (q.insert slot).rows = q.rows ++ [slot] := by
      have kept : (q.rows.filter fun s => s.scheduledTime ≤ slot.scheduledTime) = q.rows :=
        List.filter_eq_self.mpr fun s member => decide_eq_true (early s member)
      have none : (q.rows.filter fun s => slot.scheduledTime < s.scheduledTime) = [] :=
        List.filter_eq_nil_iff.mpr fun s member => by simpa using early s member
      rw [rows_insert sorted, kept, none]
    rw [List.foldl_cons, ih (by rw [last, List.append_assoc]; exact ordered), last, List.append_assoc]
    rfl

theorem slots_foldl_setSchedule (q : Queue) (schedules : List Schedule) :
    (schedules.foldl (fun q s => q.setSchedule s.weekday s) q).slots = q.slots := by
  induction schedules generalizing q with
  | nil => rfl
  | cons s schedules ih => rw [List.foldl_cons, ih, slots_setSchedule]

theorem schedules_foldl_setSchedule {p q : Queue} {schedules : List Schedule} {weekday : Nat}
    (stored : ∀ s ∈ schedules, q.schedules[s.weekday.toNat]? = some (some s))
    (agree : p.schedules[weekday]? = q.schedules[weekday]? ∨ ∃ s ∈ schedules, s.weekday.toNat = weekday) :
    (schedules.foldl (fun q s => q.setSchedule s.weekday s) p).schedules[weekday]? = q.schedules[weekday]? := by
  induction schedules generalizing p with
  | nil =>
    rcases agree with same | ⟨s, member, _⟩
    · exact same
    · contradiction
  | cons s schedules ih =>
    obtain ⟨first, rest⟩ := List.forall_mem_cons.mp stored
    apply ih rest
    change (p.schedules.setIfInBounds s.weekday.toNat (some s))[weekday]? = _ ∨ _
    rw [Vector.getElem?_setIfInBounds]
    by_cases same : s.weekday.toNat = weekday
    · subst same
      have bound : s.weekday.toNat < 7 := (Vector.getElem?_eq_some_iff.mp first).1
      rw [if_pos rfl, if_pos bound]
      exact .inl first.symm
    · rw [if_neg same]
      refine agree.imp id ?_
      rintro ⟨t, member, named⟩
      rcases List.mem_cons.mp member with rfl | member
      · exact absurd named same
      · exact ⟨t, member, named⟩

theorem mem_allSchedules {q : Queue} {s : Schedule} :
    s ∈ q.allSchedules ↔ ∃ weekday : Nat, q.schedules[weekday]? = some (some s) := by
  rw [allSchedules, List.mem_filterMap]
  constructor
  · rintro ⟨entry, member, same⟩
    obtain ⟨weekday, found⟩ := List.mem_iff_getElem?.mp member
    have held : entry = some s := same
    rw [held, Vector.getElem?_toList] at found
    exact ⟨weekday, found⟩
  · rintro ⟨weekday, found⟩
    rw [← Vector.getElem?_toList] at found
    exact ⟨some s, List.mem_of_getElem? found, rfl⟩

theorem foldl_snapshot {q : Queue} (sorted : q.Sorted) (placed : q.Placed) (id : Id) :
    (q.snapshot id).foldl apply empty = q := by
  rw [snapshot, List.foldl_append, List.foldl_map, List.foldl_map]
  -- The schedules come first and leave the rows empty; the rows then go in by their order.
  change q.rows.foldl insert (q.allSchedules.foldl (fun q s => q.setSchedule s.weekday s) empty) = q
  have slots := slots_foldl_setSchedule empty q.allSchedules
  have schedules : ∀ weekday : Nat,
      (q.allSchedules.foldl (fun q s => q.setSchedule s.weekday s) empty).schedules[weekday]? =
        q.schedules[weekday]? := by
    intro weekday
    apply schedules_foldl_setSchedule
    · intro s member
      obtain ⟨other, stored⟩ := mem_allSchedules.mp member
      rw [placed other s stored]
      exact stored
    · cases stored : q.schedules[weekday]? with
      | none =>
        rw [Vector.getElem?_eq_none_iff] at stored
        exact .inl (Vector.getElem?_eq_none_iff.mpr stored)
      | some entry =>
        have bound := (Vector.getElem?_eq_some_iff.mp stored).1
        cases entry with
        | none =>
          refine .inl ?_
          rw [empty, Vector.getElem?_replicate, if_pos bound]
        | some s => exact .inr ⟨s, mem_allSchedules.mpr ⟨weekday, stored⟩, placed weekday s stored⟩
  generalize q.allSchedules.foldl (fun q s => q.setSchedule s.weekday s) empty = p at slots schedules
  have none : p.rows = [] := congrArg Array.toList slots
  have rows : (q.rows.foldl insert p).rows = q.rows := by
    rw [rows_foldl_insert (by rw [none]; exact sorted), none, List.nil_append]
  have same : (q.rows.foldl insert p).schedules = q.schedules := by
    rw [schedules_foldl_insert]
    rw [← Vector.toList_inj]
    apply List.ext_getElem?
    intro weekday
    rw [Vector.getElem?_toList, Vector.getElem?_toList, schedules]
  generalize q.rows.foldl insert p = built at rows same
  obtain ⟨schedules, slots⟩ := q
  obtain ⟨others, built⟩ := built
  cases same
  cases Array.toList_inj.mp rows
  rfl

end Queue

namespace Register

theorem content_applyAll (r : Register) (es : List Event) (queue : Id) :
    (r.applyAll es).content queue = (es.filter fun e => e.queue = queue).foldl Queue.apply (r.content queue) := by
  induction es generalizing r with
  | nil => rfl
  | cons e es ih =>
    have first := ih (r.apply e)
    rw [List.filter_cons]
    by_cases own : e.queue = queue
    · rw [if_pos (decide_eq_true own), List.foldl_cons]
      rw [content_apply, if_pos own.symm] at first
      exact first
    · rw [if_neg (by simpa using own)]
      rw [content_apply, if_neg (Ne.symm own)] at first
      exact first

theorem mem_listed {r : Register} {queues : List (Id × Queue)} (listed : queues.Perm r.queues.toList)
    {id : Id} {q : Queue} : (id, q) ∈ queues ↔ r.queue? id = some q := by
  rw [listed.mem_iff]
  exact Std.ExtTreeMap.mem_toList_iff_getElem?_eq_some

theorem content_of_listed {r : Register} {queues : List (Id × Queue)} (listed : queues.Perm r.queues.toList)
    {id : Id} {q : Queue} (member : (id, q) ∈ queues) : r.content id = q := by
  rw [content, (mem_listed listed).mp member, Option.getD_some]

theorem pairwise_listed {r : Register} {queues : List (Id × Queue)} (listed : queues.Perm r.queues.toList) :
    queues.Pairwise fun a b => a.1 ≠ b.1 := by
  have differ : r.queues.toList.Pairwise fun a b => a.1 ≠ b.1 := by
    refine Std.ExtTreeMap.distinct_keys_toList.imp ?_
    intro a b unequal same
    exact unequal (Std.LawfulEqCmp.compare_eq_iff_eq.mpr same)
  exact (listed.pairwise_iff fun unequal => Ne.symm unequal).mpr differ

theorem queue_of_mem_snapshot {id : Id} {q : Queue} (named : ∀ row ∈ q.rows, row.queue = id) {e : Event}
    (member : e ∈ q.snapshot id) : e.queue = id := by
  rcases List.mem_append.mp member with replaced | created
  · obtain ⟨schedule, _, rfl⟩ := List.mem_map.mp replaced
    rfl
  · obtain ⟨row, present, rfl⟩ := List.mem_map.mp created
    exact named row present

theorem snapshot_addressed {id : Id} {q : Queue} {e : Event} (member : e ∈ q.snapshot id) : e.Addressed := by
  rcases List.mem_append.mp member with replaced | created
  · obtain ⟨schedule, _, rfl⟩ := List.mem_map.mp replaced
    exact nofun
  · obtain ⟨row, _, rfl⟩ := List.mem_map.mp created
    intro slot new
    exact congrArg Slot.queue (List.mem_singleton.mp new)

theorem newIds_snapshot (q : Queue) (id : Id) : (q.snapshot id).flatMap Event.newIds = q.rows.map Slot.id := by
  have schedules : (q.allSchedules.map (Event.scheduleReplaced id)).flatMap Event.newIds = [] := by
    rw [List.flatMap_map, List.flatMap_eq_nil_iff]
    exact fun _ _ => rfl
  have rows : (q.rows.map Event.slotCreated).flatMap Event.newIds = q.rows.map Slot.id := by
    rw [List.flatMap_map, List.map_eq_flatMap]
    rfl
  rw [Queue.snapshot, List.flatMap_append, schedules, List.nil_append]
  exact rows

section

variable {r : Register} {queues : List (Id × Queue)}

theorem WellFormed.queue_of_listed (formed : r.WellFormed) (listed : queues.Perm r.queues.toList) {p : Id × Queue}
    (member : p ∈ queues) {e : Event} (event : e ∈ p.2.snapshot p.1) : e.queue = p.1 := by
  apply queue_of_mem_snapshot _ event
  rw [← content_of_listed listed member]
  exact formed.named p.1

theorem WellFormed.nodup_snapshotOf (formed : r.WellFormed) (listed : queues.Perm r.queues.toList) :
    ((snapshotOf queues).flatMap Event.newIds).Nodup := by
  have ids : (snapshotOf queues).flatMap Event.newIds = queues.flatMap fun p => p.2.rows.map Slot.id := by
    rw [snapshotOf, List.flatMap_assoc]
    exact congrArg queues.flatMap (funext fun p => newIds_snapshot p.2 p.1)
  have indexed : ∀ p ∈ queues, ∀ id ∈ p.2.rows.map Slot.id, r.homes[id]? = some p.1 := by
    intro p member id present
    rw [← content_of_listed listed member] at present
    exact (formed.indexed id p.1).mpr present
  rw [ids, List.Nodup, List.pairwise_flatMap]
  constructor
  · intro p member
    rw [← content_of_listed listed member]
    exact formed.orderly.distinct p.1
  · refine (pairwise_listed listed).imp_of_mem ?_
    intro p o first second differ id left other right same
    have home := indexed o second other right
    rw [← same, indexed p first id left] at home
    exact differ (Option.some.inj home)

theorem filter_snapshotOf_other (formed : r.WellFormed) (listed : queues.Perm r.queues.toList) {queue : Id}
    {others : List (Id × Queue)} (within : ∀ p ∈ others, p ∈ queues) (other : ∀ p ∈ others, p.1 ≠ queue) :
    ((snapshotOf others).filter fun e => e.queue = queue) = [] := by
  rw [List.filter_eq_nil_iff]
  intro e member
  obtain ⟨p, present, event⟩ := List.mem_flatMap.mp member
  rw [formed.queue_of_listed listed (within p present) event]
  simpa using other p present

theorem filter_snapshotOf (formed : r.WellFormed) (listed : queues.Perm r.queues.toList) {queue : Id} {q : Queue}
    (member : (queue, q) ∈ queues) : ((snapshotOf queues).filter fun e => e.queue = queue) = q.snapshot queue := by
  obtain ⟨front, back, split⟩ := List.append_of_mem member
  have differ := pairwise_listed listed
  rw [split, List.pairwise_append, List.pairwise_cons] at differ
  obtain ⟨_, ⟨after, _⟩, before⟩ := differ
  have early : ((snapshotOf front).filter fun e => e.queue = queue) = [] := filter_snapshotOf_other formed listed
    (fun p present => split ▸ List.mem_append_left _ present)
    (fun p present => before p present _ List.mem_cons_self)
  have late : ((snapshotOf back).filter fun e => e.queue = queue) = [] := filter_snapshotOf_other formed listed
    (fun p present => split ▸ List.mem_append_right _ (List.mem_cons_of_mem _ present))
    (fun p present => Ne.symm (after p present))
  have own : ((q.snapshot queue).filter fun e => e.queue = queue) = q.snapshot queue :=
    List.filter_eq_self.mpr fun e event => decide_eq_true (formed.queue_of_listed listed member event)
  have parts : snapshotOf queues = snapshotOf front ++ (q.snapshot queue ++ snapshotOf back) := by
    rw [split, snapshotOf, List.flatMap_append, List.flatMap_cons]
    rfl
  rw [parts, List.filter_append, List.filter_append, early, late, own, List.nil_append, List.append_nil]

theorem content_snapshotOf (formed : r.WellFormed) (listed : queues.Perm r.queues.toList) (queue : Id) :
    (ofEvents (snapshotOf queues)).content queue = r.content queue := by
  rw [ofEvents, content_applyAll, content_empty]
  cases found : r.queue? queue with
  | none =>
    have other : ∀ p ∈ queues, p.1 ≠ queue := by
      rintro ⟨id, q⟩ member rfl
      rw [(mem_listed listed).mp member] at found
      contradiction
    rw [filter_snapshotOf_other formed listed (fun _ present => present) other, content, found]
    rfl
  | some q =>
    have member := (mem_listed listed).mpr found
    have sorted := formed.orderly.sorted queue
    have placed := formed.placed queue
    rw [content_of_listed listed member] at sorted placed
    rw [filter_snapshotOf formed listed member, Queue.foldl_snapshot sorted placed, content_of_listed listed member]

/-- A snapshot builds the state again, whatever the order of its queues. -/
theorem WellFormed.snapshotOf_same (formed : r.WellFormed) (listed : queues.Perm r.queues.toList) :
    (ofEvents (snapshotOf queues)).Same r := by
  have addressed : ∀ e ∈ snapshotOf queues, e.Addressed := by
    intro e member
    obtain ⟨p, _, event⟩ := List.mem_flatMap.mp member
    exact snapshot_addressed event
  have built := wellFormed_empty.applyAll (fresh_empty (formed.nodup_snapshotOf listed)) addressed
  exact built.same formed (content_snapshotOf formed listed)

end

end Register

end Bookings
