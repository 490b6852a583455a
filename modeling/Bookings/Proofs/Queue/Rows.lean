import Mathlib.Data.List.Nodup
import Bookings.Queue.Basic
import Bookings.Proofs.Queue.Search

namespace Bookings

theorem insertIdx_eq_take_drop {α : Type} (a : α) (i : Nat) (l : List α) (bound : i ≤ l.length) :
    l.insertIdx i a = l.take i ++ a :: l.drop i := by
  induction l generalizing i with
  | nil =>
    have zero : i = 0 := by simpa using bound
    subst zero
    rfl
  | cons b l ih =>
    cases i with
    | zero => rfl
    | succ i =>
      rw [List.insertIdx_succ_cons, ih i (by simpa using bound)]
      rfl

theorem modify_first_eq_map {α : Type} (p : α → Bool) (f : α → α) (l : List α)
    (once : l.Pairwise fun a b => p a = true → p b = false) :
    (match l.findIdx? p with
      | some i => l.modify i f
      | none => l) = l.map fun a => if p a = true then f a else a := by
  induction l with
  | nil => rfl
  | cons a l ih =>
    obtain ⟨first, rest⟩ := List.pairwise_cons.mp once
    rw [List.findIdx?_cons]
    by_cases held : p a = true
    · have others : (l.map fun b => if p b = true then f b else b) = l := by
        rw [List.map_congr_left (g := id) fun b member => by simp [first b member held]]
        exact List.map_id l
      simp [held, others]
    · have tail := ih rest
      simp only [held, Bool.false_eq_true, if_false, List.map_cons]
      rw [← tail]
      cases l.findIdx? p <;> rfl

theorem map_modify_of_same {α β : Type} (g : α → β) (f : α → α) (same : ∀ a, g (f a) = g a)
    (i : Nat) (l : List α) : (l.modify i f).map g = l.map g := by
  induction l generalizing i with
  | nil => simp
  | cons a l ih => cases i <;> simp [same, ih]

theorem mem_of_mem_modify {α : Type} {f : α → α} {i : Nat} {l : List α} {a : α} (member : a ∈ l.modify i f) :
    a ∈ l ∨ ∃ b ∈ l, a = f b := by
  obtain ⟨j, bound, found⟩ := List.mem_iff_getElem.mp member
  rw [List.getElem_modify] at found
  rw [List.length_modify] at bound
  split at found
  · exact .inr ⟨l[j], List.getElem_mem bound, found.symm⟩
  · exact .inl (found ▸ List.getElem_mem bound)

namespace Queue

def rows (q : Queue) : List Slot := q.slots.toList

@[simp]
theorem rows_empty : empty.rows = [] := rfl

@[simp]
theorem rows_setSchedule (q : Queue) (weekday : UInt8) (schedule : Schedule) :
    (q.setSchedule weekday schedule).rows = q.rows := rfl

def Sorted (q : Queue) : Prop := q.rows.Pairwise fun a b => a.scheduledTime ≤ b.scheduledTime

def Distinct (q : Queue) : Prop := (q.rows.map Slot.id).Nodup

theorem sorted_empty : empty.Sorted := List.Pairwise.nil

theorem distinct_empty : empty.Distinct := List.nodup_nil

theorem sorted_iff_times (q : Queue) :
    q.Sorted ↔ (q.rows.map Slot.scheduledTime).Pairwise (· ≤ ·) := List.pairwise_map.symm

theorem rows_insert_between (q : Queue) (slot : Slot) :
    ∃ front back, q.rows = front ++ back ∧ (q.insert slot).rows = front ++ slot :: back := by
  let i := partitionPoint (fun s => s.scheduledTime ≤ slot.scheduledTime) q.slots
  refine ⟨q.rows.take i, q.rows.drop i, (List.take_append_drop i q.rows).symm, ?_⟩
  rw [rows, slots_insert, insertSorted, Array.toList_insertIdx]
  exact insertIdx_eq_take_drop slot i _ (partitionPoint_le _ _)

theorem rows_insert_perm (q : Queue) (slot : Slot) : (q.insert slot).rows.Perm (slot :: q.rows) := by
  rw [rows, slots_insert, insertSorted, Array.toList_insertIdx]
  exact List.perm_insertIdx slot _ (partitionPoint_le _ _)

theorem Sorted.not_later {q : Queue} (sorted : q.Sorted) (t : Instant) :
    q.rows.Pairwise fun a b => decide (b.scheduledTime ≤ t) = true → decide (a.scheduledTime ≤ t) = true := by
  refine sorted.imp ?_
  intro a b ordered h
  simp only [decide_eq_true_eq] at h ⊢
  exact Int64.le_trans ordered h

theorem Sorted.before {q : Queue} (sorted : q.Sorted) (t : Instant) :
    q.rows.Pairwise fun a b => decide (b.scheduledTime < t) = true → decide (a.scheduledTime < t) = true := by
  refine sorted.imp ?_
  intro a b ordered h
  simp only [decide_eq_true_eq] at h ⊢
  exact Int64.lt_of_le_of_lt ordered h

theorem rows_insert {q : Queue} (sorted : q.Sorted) (slot : Slot) :
    (q.insert slot).rows =
      (q.rows.filter fun s => s.scheduledTime ≤ slot.scheduledTime) ++
        slot :: q.rows.filter fun s => slot.scheduledTime < s.scheduledTime := by
  have closed := sorted.not_later slot.scheduledTime
  rw [rows, slots_insert, insertSorted, Array.toList_insertIdx,
    insertIdx_eq_take_drop slot _ _ (partitionPoint_le _ _), take_partitionPoint _ _ closed,
    drop_partitionPoint _ _ closed]
  congr 2
  apply List.filter_congr
  intro s member
  rw [← decide_not]
  exact decide_eq_decide.mpr Int64.not_le

theorem Sorted.insert {q : Queue} (sorted : q.Sorted) (slot : Slot) : (q.insert slot).Sorted := by
  rw [Sorted, rows_insert sorted, List.pairwise_append, List.pairwise_cons]
  refine ⟨sorted.filter _, ⟨?_, sorted.filter _⟩, ?_⟩
  · intro s member
    have later := (List.mem_filter.mp member).2
    exact Int64.le_of_lt (by simpa using later)
  · intro s member t other
    have early : s.scheduledTime ≤ slot.scheduledTime := by simpa using (List.mem_filter.mp member).2
    rcases List.mem_cons.mp other with rfl | other
    · exact early
    · have late : slot.scheduledTime < t.scheduledTime := by simpa using (List.mem_filter.mp other).2
      exact Int64.le_trans early (Int64.le_of_lt late)

theorem rows_modify_cases (q : Queue) (id : Id) (f : Slot → Slot) :
    (q.modify id f).rows = match q.rows.findIdx? fun s => decide (s.id = id) with
      | some i => q.rows.modify i f
      | none => q.rows := by
  obtain ⟨schedules, ⟨rows⟩⟩ := q
  simp only [modify, Queue.rows, List.findIdx?_toArray]
  cases rows.findIdx? fun s => decide (s.id = id) <;> simp

theorem mem_rows_modify {q : Queue} {id : Id} {f : Slot → Slot} {row : Slot} (member : row ∈ (q.modify id f).rows) :
    row ∈ q.rows ∨ ∃ old ∈ q.rows, row = f old := by
  rw [rows_modify_cases] at member
  split at member
  · exact mem_of_mem_modify member
  · exact .inl member

theorem map_rows_modify {α : Type} (g : Slot → α) (q : Queue) (id : Id) (f : Slot → Slot)
    (same : ∀ s, g (f s) = g s) : (q.modify id f).rows.map g = q.rows.map g := by
  rw [rows_modify_cases]
  split
  · exact map_modify_of_same g f same _ _
  · rfl

theorem Distinct.once {q : Queue} (distinct : q.Distinct) (id : Id) :
    q.rows.Pairwise fun a b => decide (a.id = id) = true → decide (b.id = id) = false := by
  refine (List.pairwise_map.mp distinct).imp ?_
  intro a b differ h
  simp only [decide_eq_true_eq, decide_eq_false_iff_not] at h ⊢
  exact fun same => differ (h.trans same.symm)

theorem rows_modify {q : Queue} (distinct : q.Distinct) (id : Id) (f : Slot → Slot) :
    (q.modify id f).rows = q.rows.map fun s => if s.id = id then f s else s := by
  rw [rows_modify_cases, modify_first_eq_map _ _ _ (distinct.once id)]
  simp only [decide_eq_true_eq]

theorem Sorted.modify {q : Queue} (sorted : q.Sorted) (id : Id) (f : Slot → Slot)
    (same : ∀ s, (f s).scheduledTime = s.scheduledTime) : (q.modify id f).Sorted := by
  rw [sorted_iff_times] at sorted ⊢
  rw [map_rows_modify Slot.scheduledTime q id f same]
  exact sorted

theorem Sorted.foldl_insert {q : Queue} (sorted : q.Sorted) (slots : List Slot) :
    (slots.foldl Queue.insert q).Sorted := by
  induction slots generalizing q with
  | nil => exact sorted
  | cons slot slots ih => exact ih (sorted.insert slot)

/-- What an event can do to a queue: it replaces a schedule, inserts the rows that it creates, or changes the student
or the details of one row. -/
inductive Changes (q : Queue) (e : Event) : Prop
  | replaced (queue : Id) (schedule : Schedule) (event : e = .scheduleReplaced queue schedule)
      (result : q.apply e = q.setSchedule schedule.weekday schedule)
  | grown (result : q.apply e = e.created.foldl Queue.insert q)
  | modified (id : Id) (f : Slot → Slot) (none : e.created = [])
      (limited : ∀ s, f s = { s with student := (f s).student, details := (f s).details })
      (result : q.apply e = q.modify id f)

theorem changes (q : Queue) (e : Event) : q.Changes e := by
  cases e with
  | scheduleReplaced queue schedule => exact .replaced queue schedule rfl rfl
  | slotCreated slot => exact .grown rfl
  | slotsPublished queue slots => exact .grown rfl
  | detailsEdited id queue details => exact .modified id _ rfl (fun _ => rfl) rfl
  | claimReleased id queue => exact .modified id _ rfl (fun _ => rfl) rfl
  | slotClaimed id queue student => exact .modified id _ rfl (fun _ => rfl) rfl

theorem Sorted.apply {q : Queue} (sorted : q.Sorted) (e : Event) : (q.apply e).Sorted := by
  cases q.changes e with
  | replaced queue schedule event result =>
    rw [result]
    exact sorted
  | grown result =>
    rw [result]
    exact sorted.foldl_insert e.created
  | modified id f none limited result =>
    rw [result]
    exact sorted.modify id f fun s => by rw [limited s]

theorem rows_foldl_insert_perm (q : Queue) (slots : List Slot) :
    (slots.foldl Queue.insert q).rows.Perm (slots ++ q.rows) := by
  induction slots generalizing q with
  | nil => exact List.Perm.refl _
  | cons slot slots ih =>
    have moved := (rows_insert_perm q slot).append_left slots
    exact (ih (q.insert slot)).trans (moved.trans List.perm_middle)

theorem slot?_eq_find? (q : Queue) (id : Id) : q.slot? id = q.rows.find? fun s => decide (s.id = id) := by
  rw [slot?, rows, Array.find?_toList]

theorem mem_of_slot? {q : Queue} {id : Id} {s : Slot} (found : q.slot? id = some s) :
    s ∈ q.rows ∧ s.id = id := by
  rw [slot?_eq_find?] at found
  exact ⟨List.mem_of_find?_eq_some found, by simpa using List.find?_some found⟩

theorem drop_countBefore {q : Queue} (sorted : q.Sorted) (t : Instant) :
    q.rows.drop (q.countBefore t) = q.rows.filter fun s => !decide (s.scheduledTime < t) :=
  drop_partitionPoint _ _ (sorted.before t)

theorem lt_countBefore_iff {q : Queue} (sorted : q.Sorted) (t : Instant) (i : Nat) (bound : i < q.rows.length) :
    i < q.countBefore t ↔ q.rows[i].scheduledTime < t := by
  have found := lt_partitionPoint_iff _ _ (sorted.before t) i (by simpa [rows] using bound)
  rw [decide_eq_true_eq] at found
  exact found

theorem take_drop_countBefore {q : Queue} (sorted : q.Sorted) (low : Nat) (t : Instant) :
    (q.rows.drop low).take (max (q.countBefore t) low - low) =
      (q.rows.drop low).filter fun s => decide (s.scheduledTime < t) := by
  refine (take_drop_eq_filter _ _ _ ?_).1
  intro i h
  rw [List.length_drop] at h
  rw [List.getElem_drop, decide_eq_true_eq, ← lt_countBefore_iff sorted t (low + i) (by omega)]
  omega

/-- Both binary searches of a window together keep the rows that it contains. -/
theorem within_eq_filter {q : Queue} (sorted : q.Sorted) (w : Span) :
    q.within w = q.rows.filter fun s => w.contains s.scheduledTime := by
  have extracted : q.within w = (q.rows.drop (q.countBefore w.start)).take
      (max (q.countBefore w.stop) (q.countBefore w.start) - q.countBefore w.start) := by
    rw [within, Array.toList_extract, List.extract_eq_take_drop, rows]
  rw [extracted, take_drop_countBefore sorted, drop_countBefore sorted, List.filter_filter]
  apply List.filter_congr
  intro s member
  rw [Span.contains, Bool.and_comm, ← decide_not]
  congr 1
  exact decide_eq_decide.mpr Int64.not_lt

end Queue

end Bookings
