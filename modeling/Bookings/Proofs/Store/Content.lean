import Bookings.Store.Decision
import Bookings.Proofs.Queue.Rows

namespace Bookings

@[simp]
theorem Queue.within_empty (w : Span) : Queue.empty.within w = [] :=
  Queue.within_eq_filter sorted_empty w

@[simp]
theorem Queue.schedule?_empty (weekday : UInt8) : Queue.empty.schedule? weekday = none := by
  rw [schedule?, empty, Vector.getElem?_replicate]
  split <;> rfl

namespace Queue

theorem schedules_foldl_insert (q : Queue) (slots : List Slot) : (slots.foldl insert q).schedules = q.schedules := by
  induction slots generalizing q with
  | nil => rfl
  | cons slot slots ih => rw [List.foldl_cons, ih, schedules_insert]

theorem schedule?_setSchedule (q : Queue) (schedule : Schedule) (weekday : UInt8) (exists_ : schedule.weekday ≤ 6) :
    (q.setSchedule schedule.weekday schedule).schedule? weekday =
      if weekday = schedule.weekday then some schedule else q.schedule? weekday := by
  have bound : schedule.weekday.toNat < 7 := by
    have le := UInt8.le_iff_toNat_le.mp exists_
    exact Nat.lt_succ_of_le le
  rw [schedule?, setSchedule, Vector.getElem?_setIfInBounds]
  by_cases same : weekday = schedule.weekday
  · rw [if_pos (congrArg UInt8.toNat same.symm), if_pos bound, if_pos same]
    rfl
  · have differ : schedule.weekday.toNat ≠ weekday.toNat := fun h => same (UInt8.toNat_inj.mp h).symm
    rw [if_neg differ, if_neg same, schedule?]

theorem schedules_apply (q : Queue) {e : Event} (other : ∀ queue schedule, e ≠ .scheduleReplaced queue schedule) :
    (q.apply e).schedules = q.schedules := by
  cases q.changes e with
  | replaced queue schedule event result => exact absurd event (other queue schedule)
  | grown result =>
    rw [result]
    exact q.schedules_foldl_insert e.created
  | modified id f none limited result =>
    rw [result]
    exact q.schedules_modify id f

theorem schedule?_apply (q : Queue) {e : Event} (other : ∀ queue schedule, e ≠ .scheduleReplaced queue schedule)
    (weekday : UInt8) : (q.apply e).schedule? weekday = q.schedule? weekday := by
  rw [schedule?, schedules_apply q other, schedule?]

end Queue

namespace Register

def content (r : Register) (queue : Id) : Queue := (r.queue? queue).getD .empty

def rows (r : Register) (queue : Id) : List Slot := (r.content queue).rows

/-- Two states agree up to queues that hold neither a schedule nor a row. -/
structure Same (r s : Register) : Prop where
  content : ∀ queue, r.content queue = s.content queue
  homes : r.homes = s.homes

theorem Same.refl (r : Register) : r.Same r := ⟨fun _ => rfl, rfl⟩

theorem Same.symm {r s : Register} (same : r.Same s) : s.Same r :=
  ⟨fun queue => (same.content queue).symm, same.homes.symm⟩

theorem Same.trans {r s t : Register} (first : r.Same s) (second : s.Same t) : r.Same t :=
  ⟨fun queue => (first.content queue).trans (second.content queue), first.homes.trans second.homes⟩

theorem Same.rows {r s : Register} (same : r.Same s) (queue : Id) : r.rows queue = s.rows queue :=
  congrArg Queue.rows (same.content queue)

@[simp]
theorem content_empty (queue : Id) : empty.content queue = .empty := by
  simp [content, queue?, empty]

@[simp]
theorem rows_empty (queue : Id) : empty.rows queue = [] := by
  rw [rows, content_empty, Queue.rows_empty]

theorem content_addQueue (r : Register) (id queue : Id) :
    (r.addQueue id).content queue = r.content queue := by
  rw [content, queue?_addQueue, content]
  split
  · rename_i same
    rw [same, Option.getD_some]
  · rfl

theorem addQueue_same (r : Register) (id : Id) : (r.addQueue id).Same r :=
  ⟨content_addQueue r id, rfl⟩

theorem content_apply (r : Register) (e : Event) (queue : Id) :
    (r.apply e).content queue =
      if queue = e.queue then (r.content queue).apply e else r.content queue := by
  rw [content, queue?_apply]
  split <;> rfl

@[simp]
theorem content_apply_self (r : Register) (e : Event) :
    (r.apply e).content e.queue = (r.content e.queue).apply e := by
  rw [content_apply, if_pos rfl]

theorem content_apply_other (r : Register) (e : Event) {queue : Id} (other : queue ≠ e.queue) :
    (r.apply e).content queue = r.content queue := by
  rw [content_apply, if_neg other]

theorem sorted_apply {r : Register} (sorted : ∀ queue, (r.content queue).Sorted) (e : Event) (queue : Id) :
    ((r.apply e).content queue).Sorted := by
  rw [content_apply]
  split
  · exact (sorted queue).apply e
  · exact sorted queue

theorem rows_apply_self (r : Register) (e : Event) : (r.apply e).rows e.queue = ((r.content e.queue).apply e).rows := by
  rw [rows, content_apply_self]

theorem rows_apply_other (r : Register) (e : Event) {queue : Id} (other : queue ≠ e.queue) :
    (r.apply e).rows queue = r.rows queue := by
  rw [rows, content_apply_other r e other, rows]

theorem rows_slotCreated (r : Register) (slot : Slot) :
    (r.apply (.slotCreated slot)).rows slot.queue = ((r.content slot.queue).insert slot).rows :=
  r.rows_apply_self (.slotCreated slot)

theorem rows_detailsEdited (r : Register) (id home : Id) (details : Details) :
    (r.apply (.detailsEdited id home details)).rows home = ((r.content home).setDetails id details).rows :=
  r.rows_apply_self (.detailsEdited id home details)

theorem rows_claimReleased (r : Register) (id home : Id) :
    (r.apply (.claimReleased id home)).rows home = ((r.content home).setStudent id none).rows :=
  r.rows_apply_self (.claimReleased id home)

theorem rows_slotClaimed (r : Register) (id home : Id) (student : String) :
    (r.apply (.slotClaimed id home student)).rows home = ((r.content home).setStudent id (some student)).rows :=
  r.rows_apply_self (.slotClaimed id home student)

theorem homes_apply (r : Register) (e : Event) :
    (r.apply e).homes = e.created.foldl (fun homes slot => homes.insert slot.id e.queue) r.homes := rfl

theorem Same.apply {r s : Register} (same : r.Same s) (e : Event) : (r.apply e).Same (s.apply e) := by
  constructor
  · intro queue
    rw [content_apply, content_apply, same.content]
  · rw [homes_apply, homes_apply, same.homes]

theorem Same.applyAll {r s : Register} (same : r.Same s) (es : List Event) :
    (r.applyAll es).Same (s.applyAll es) := by
  induction es generalizing r s with
  | nil => exact same
  | cons e es ih => exact ih (same.apply e)

theorem within_eq (r : Register) (queue : Id) (w : Span) :
    r.within queue w = (r.content queue).within w := by
  rw [within, content]
  cases r.queue? queue with
  | none => exact (Queue.within_empty w).symm
  | some q => rfl

theorem atTimeslot_eq (r : Register) (queue : Id) (w : Span) (timeslot : UInt32) :
    r.atTimeslot queue w timeslot = (r.content queue).atTimeslot w timeslot := by
  rw [atTimeslot, content]
  cases r.queue? queue with
  | none => rw [Option.getD_none, Queue.atTimeslot, Queue.within_empty, List.filter_nil]
  | some q => rfl

theorem claimedBy_eq (r : Register) (queue : Id) (w : Span) (email : String) :
    r.claimedBy queue w email = (r.content queue).claimedBy w email := by
  rw [claimedBy, content]
  cases r.queue? queue with
  | none => rw [Option.getD_none, Queue.claimedBy, Queue.within_empty, List.filter_nil]
  | some q => rfl

theorem schedule?_eq (r : Register) (queue : Id) (weekday : UInt8) :
    r.schedule? queue weekday = (r.content queue).schedule? weekday := by
  rw [schedule?, content]
  cases r.queue? queue with
  | none => rw [Option.getD_none, Queue.schedule?_empty]
  | some q => rfl

theorem isSome_queue?_of_schedule? {r : Register} {queue : Id} {weekday : UInt8} {schedule : Schedule}
    (stored : r.schedule? queue weekday = some schedule) : (r.queue? queue).isSome = true := by
  rw [schedule?] at stored
  cases present : r.queue? queue with
  | none =>
    rw [present] at stored
    cases stored
  | some q => rfl

theorem Same.schedule? {r s : Register} (same : r.Same s) : r.schedule? = s.schedule? := by
  funext queue weekday
  rw [schedule?_eq, schedule?_eq, same.content]

theorem schedule?_apply (r : Register) {e : Event} (other : ∀ queue schedule, e ≠ .scheduleReplaced queue schedule) :
    (r.apply e).schedule? = r.schedule? := by
  funext queue weekday
  rw [schedule?_eq, content_apply, schedule?_eq]
  split
  · exact Queue.schedule?_apply _ other weekday
  · rfl

theorem schedule?_replace (r : Register) (queue other : Id) (schedule : Schedule) (weekday : UInt8)
    (exists_ : schedule.weekday ≤ 6) :
    (r.apply (.scheduleReplaced queue schedule)).schedule? other weekday =
      if other = queue ∧ weekday = schedule.weekday then some schedule else r.schedule? other weekday := by
  have replaced : ∀ q : Queue, (q.apply (.scheduleReplaced queue schedule)).schedule? weekday =
      if weekday = schedule.weekday then some schedule else q.schedule? weekday :=
    fun q => q.schedule?_setSchedule schedule weekday exists_
  have addressed : (Event.scheduleReplaced queue schedule).queue = queue := rfl
  rw [schedule?_eq, content_apply, schedule?_eq, addressed]
  by_cases own : other = queue
  · rw [if_pos own, replaced]
    simp only [own, true_and]
  · rw [if_neg own, if_neg fun both => own both.1]

theorem slotCount_eq (r : Register) (queue : Id) : r.slotCount queue = (r.rows queue).length := by
  rw [slotCount, rows, content]
  cases r.queue? queue with
  | none => rfl
  | some q => rfl

end Register

end Bookings
