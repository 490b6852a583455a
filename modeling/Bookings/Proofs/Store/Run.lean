import Bookings.Proofs.Store.Admission

namespace Bookings

def Call.newIds : Call → List Id
  | .insert slot _ => [slot.id]
  | .publish _ slots => slots.map Slot.id
  | _ => []

structure Exchange where
  call : Call
  answer : call.Answer

abbrev Schedules : Type := Id → UInt8 → Option Schedule

def Event.newIds (e : Event) : List Id := e.created.map Slot.id

theorem Queue.ids_apply_perm (q : Queue) (e : Event) :
    ((q.apply e).rows.map Slot.id).Perm (e.newIds ++ q.rows.map Slot.id) := by
  cases q.changes e with
  | replaced queue schedule event result =>
    rw [result, event]
    exact List.Perm.refl _
  | grown result =>
    have moved := (rows_foldl_insert_perm q e.created).map Slot.id
    rw [List.map_append] at moved
    rw [result]
    exact moved
  | modified id f none limited result =>
    rw [result, map_rows_modify Slot.id q id f (fun s => by rw [limited s]), Event.newIds, none]
    exact List.Perm.refl _

namespace Register

structure Orderly (r : Register) : Prop where
  sorted : ∀ queue, (r.content queue).Sorted
  distinct : ∀ queue, (r.content queue).Distinct

structure Fresh (r : Register) (ids : List Id) : Prop where
  distinct : ids.Nodup
  unused : ∀ id ∈ ids, ∀ queue, ∀ row ∈ r.rows queue, row.id ≠ id

theorem orderly_empty : empty.Orderly := by
  constructor <;> intro queue <;> rw [content_empty]
  · exact Queue.sorted_empty
  · exact Queue.distinct_empty

theorem Orderly.of_same {r s : Register} (orderly : s.Orderly) (same : r.Same s) : r.Orderly := by
  constructor <;> intro queue <;> rw [same.content]
  · exact orderly.sorted queue
  · exact orderly.distinct queue

theorem Fresh.of_same {r s : Register} {ids : List Id} (fresh : s.Fresh ids) (same : r.Same s) : r.Fresh ids := by
  refine ⟨fresh.distinct, ?_⟩
  intro id new queue row member
  rw [same.rows] at member
  exact fresh.unused id new queue row member

theorem fresh_empty {ids : List Id} (distinct : ids.Nodup) : empty.Fresh ids := by
  refine ⟨distinct, ?_⟩
  intro id _ queue row member
  rw [rows_empty] at member
  contradiction

theorem distinct_apply {r : Register} {e : Event} (distinct : (r.content e.queue).Distinct)
    (fresh : r.Fresh e.newIds) : ((r.content e.queue).apply e).Distinct := by
  rw [Queue.Distinct, (Queue.ids_apply_perm _ e).nodup_iff, List.nodup_append]
  refine ⟨fresh.distinct, distinct, ?_⟩
  intro id new other old same
  obtain ⟨row, present, rfl⟩ := List.mem_map.mp old
  exact fresh.unused id new e.queue row present same.symm

theorem Orderly.apply {r : Register} (orderly : r.Orderly) (e : Event) (fresh : r.Fresh e.newIds) :
    (r.apply e).Orderly := by
  constructor
  · exact sorted_apply orderly.sorted e
  · intro queue
    by_cases own : queue = e.queue
    · rw [own, content_apply_self]
      exact distinct_apply (orderly.distinct e.queue) fresh
    · rw [content_apply_other r e own]
      exact orderly.distinct queue

theorem Fresh.perm {r : Register} {ids more : List Id} (fresh : r.Fresh ids) (moved : ids.Perm more) :
    r.Fresh more := by
  refine ⟨moved.nodup_iff.mp fresh.distinct, ?_⟩
  intro id new
  exact fresh.unused id (moved.mem_iff.mpr new)

theorem Fresh.left {r : Register} {ids more : List Id} (fresh : r.Fresh (ids ++ more)) : r.Fresh ids :=
  ⟨(List.nodup_append.mp fresh.distinct).1, fun id new => fresh.unused id (List.mem_append_left more new)⟩

theorem Fresh.right {r : Register} {ids more : List Id} (fresh : r.Fresh (ids ++ more)) : r.Fresh more :=
  (fresh.perm List.perm_append_comm).left

/-- Where the rows after an event come from: events change no more of a row than its student and details. -/
theorem mem_rows_apply {r : Register} {e : Event} {queue : Id} {row : Slot} (member : row ∈ (r.apply e).rows queue) :
    (∃ old ∈ r.rows queue, row = { old with student := row.student, details := row.details }) ∨
      queue = e.queue ∧ row ∈ e.created := by
  have kept : row ∈ r.rows queue →
      ∃ old ∈ r.rows queue, row = { old with student := row.student, details := row.details } :=
    fun present => ⟨row, present, rfl⟩
  rw [rows, content_apply] at member
  split at member
  · rename_i own
    cases (r.content queue).changes e with
    | replaced other schedule event result =>
      rw [result] at member
      exact .inl (kept member)
    | grown result =>
      rw [result, (Queue.rows_foldl_insert_perm _ _).mem_iff, List.mem_append] at member
      exact member.symm.imp kept fun created => ⟨own, created⟩
    | modified id f none limited result =>
      rw [result] at member
      rcases Queue.mem_rows_modify member with present | ⟨old, present, rfl⟩
      · exact .inl (kept present)
      · exact .inl ⟨old, present, limited old⟩
  · exact .inl (kept member)

theorem Fresh.apply {r : Register} {e : Event} {rest : List Id} (fresh : r.Fresh (e.newIds ++ rest)) :
    (r.apply e).Fresh rest := by
  refine ⟨fresh.right.distinct, ?_⟩
  intro id spare queue row member same
  rcases mem_rows_apply member with ⟨old, present, changed⟩ | ⟨_, created⟩
  · have named : row.id = old.id := by rw [changed]
    exact fresh.right.unused id spare queue old present (named.symm.trans same)
  · exact (List.nodup_append.mp fresh.distinct).2.2 _ (List.mem_map_of_mem created) id spare same

/-- A property of states that does not tell a missing queue from an empty one and that the events of permitted
calls keep, if new rows have fresh identifiers. -/
structure Keeps (I : Register → Prop) (permitted : Schedules → Call → Prop) : Prop where
  same : ∀ {r s}, s.Same r → I r → I s
  apply : ∀ {r c e a}, r.Admits c e a → permitted r.schedule? c → r.Fresh e.newIds → I r → I (r.apply e)

theorem orderly_keeps : Keeps Orderly fun _ _ => True where
  same := fun same orderly => orderly.of_same same
  apply := fun _ _ fresh orderly => orderly.apply _ fresh

theorem Keeps.all {ι : Type} {I : ι → Register → Prop} {permitted : Schedules → Call → Prop}
    (each : ∀ i, Keeps (I i) permitted) : Keeps (fun r => ∀ i, I i r) permitted where
  same := fun same holds i => (each i).same same (holds i)
  apply := fun admitted allowed fresh holds i => (each i).apply admitted allowed fresh (holds i)

theorem Keeps.mono {I : Register → Prop} {permitted narrower : Schedules → Call → Prop} (keeps : Keeps I permitted)
    (permits : ∀ schedules c, narrower schedules c → permitted schedules c) : Keeps I narrower where
  same := keeps.same
  apply := fun admitted allowed => keeps.apply admitted (permits _ _ allowed)

theorem Admits.newIds {r : Register} {c : Call} {e : Event} {a : c.Answer} (admitted : r.Admits c e a) :
    e.newIds = c.newIds := by
  cases admitted with
  | publish filled small =>
    rw [Event.newIds, Event.created, List.map_map]
    rfl
  | _ => rfl

end Register

namespace Store

def after (s : Store) (calls : List Call) : Store := calls.foldl (fun s c => (s.answer c).2) s

def history : Store → List Call → List Exchange
  | _, [] => []
  | s, c :: calls => ⟨c, (s.answer c).1⟩ :: (s.answer c).2.history calls

/-- Every call of a sequence brings fresh identifiers for the rows that it adds. -/
def Supplied : Store → List Call → Prop
  | _, [] => True
  | s, c :: calls => s.register.Fresh c.newIds ∧ (s.answer c).2.Supplied calls

theorem Supplied.of_append {s : Store} {calls more : List Call} (supplied : s.Supplied (calls ++ more)) :
    s.Supplied calls ∧ (s.after calls).Supplied more := by
  induction calls generalizing s with
  | nil => exact ⟨True.intro, supplied⟩
  | cons c calls ih =>
    obtain ⟨first, rest⟩ := ih supplied.2
    exact ⟨⟨supplied.1, first⟩, rest⟩

theorem register_answer {s : Store} {c : Call} {P : Register → Prop}
    (same : ∀ r, r.Same s.register → P r)
    (applied : ∀ e a r, s.register.Admits c e a → r.Same (s.register.apply e) → P r) :
    P (s.answer c).2.register := by
  rcases (s.outcome c).quiet_or_applied with ⟨_, stays⟩ | ⟨e, admitted, changed⟩
  · exact same _ stays
  · exact applied e _ _ admitted changed

theorem keeps_answer {I : Register → Prop} {permitted : Schedules → Call → Prop} {s : Store} {c : Call}
    (keeps : Register.Keeps I permitted) (allowed : permitted s.register.schedule? c)
    (fresh : s.register.Fresh c.newIds) (holds : I s.register) : I (s.answer c).2.register := by
  apply register_answer (P := I)
  · intro r same
    exact keeps.same same holds
  · intro e a r admitted same
    rw [← admitted.newIds] at fresh
    exact keeps.same same (keeps.apply admitted allowed fresh holds)

theorem keeps_after {I : Register → Prop} {permitted : Schedules → Call → Prop} {s : Store} {calls : List Call}
    (keeps : Register.Keeps I permitted) (allowed : ∀ c ∈ calls, ∀ schedules, permitted schedules c)
    (supplied : s.Supplied calls) (holds : I s.register) : I (s.after calls).register := by
  induction calls generalizing s with
  | nil => exact holds
  | cons c calls ih =>
    obtain ⟨first, rest⟩ := List.forall_mem_cons.mp allowed
    exact ih rest supplied.2 (keeps_answer keeps (first _) supplied.1 holds)

theorem fresh_answer {s : Store} {c : Call} {more : List Id} (fresh : s.register.Fresh (c.newIds ++ more)) :
    (s.answer c).2.register.Fresh more := by
  apply register_answer (P := fun r => r.Fresh more)
  · intro r same
    exact fresh.right.of_same same
  · intro e a r admitted same
    rw [← admitted.newIds] at fresh
    exact fresh.apply.of_same same

theorem fresh_after {s : Store} {calls : List Call} {more : List Id}
    (fresh : s.register.Fresh (calls.flatMap Call.newIds ++ more)) : (s.after calls).register.Fresh more := by
  induction calls generalizing s with
  | nil => exact fresh
  | cons c calls ih =>
    rw [List.flatMap_cons, List.append_assoc] at fresh
    exact ih (fresh_answer fresh)

theorem supplied_of_fresh {s : Store} {calls : List Call} (fresh : s.register.Fresh (calls.flatMap Call.newIds)) :
    s.Supplied calls := by
  induction calls generalizing s with
  | nil => exact True.intro
  | cons c calls ih =>
    rw [List.flatMap_cons] at fresh
    exact ⟨fresh.left, ih (fresh_answer fresh)⟩

end Store

end Bookings
