import Bookings.Proofs.Log.Overlong
import Bookings.Proofs.Store.Compaction
import Mathlib.Data.List.Flatten

namespace Bookings

def Slot.Precedes (ids : List Id) (a b : Slot) : Prop :=
  a.scheduledTime < b.scheduledTime ∨ a.scheduledTime = b.scheduledTime ∧ [a.id, b.id].Sublist ids

namespace Queue

structure Filed (q : Queue) (ids : List Id) : Prop where
  known : ∀ row ∈ q.rows, row.id ∈ ids
  ordered : q.rows.Pairwise (Slot.Precedes ids)

theorem filed_of_nil {q : Queue} (none : q.rows = []) (ids : List Id) : q.Filed ids := by
  constructor <;> rw [none]
  · exact nofun
  · exact List.Pairwise.nil

theorem Filed.sublist {p q : Queue} {ids : List Id} (filed : q.Filed ids) (fewer : p.rows.Sublist q.rows) :
    p.Filed ids :=
  ⟨fun row member => filed.known row (fewer.subset member), filed.ordered.sublist fewer⟩

theorem Filed.append {q : Queue} {ids : List Id} (filed : q.Filed ids) (more : List Id) : q.Filed (ids ++ more) where
  known := fun row member => List.mem_append_left more (filed.known row member)
  ordered := by
    refine filed.ordered.imp fun before => before.imp_right ?_
    exact fun tied => ⟨tied.1, tied.2.trans (List.sublist_append_left ids more)⟩

theorem Filed.sorted {q : Queue} {ids : List Id} (filed : q.Filed ids) : q.Sorted := by
  refine filed.ordered.imp fun before => ?_
  rcases before with earlier | tied
  · exact Int64.le_of_lt earlier
  · exact Int64.le_of_eq tied.1

theorem Filed.insert {q : Queue} {ids : List Id} (filed : q.Filed ids) (slot : Slot) :
    (q.insert slot).Filed (ids ++ [slot.id]) where
  known := by
    intro row member
    rcases List.mem_cons.mp ((q.rows_insert_perm slot).mem_iff.mp member) with rfl | old
    · exact List.mem_append_right ids List.mem_cons_self
    · exact List.mem_append_left _ (filed.known row old)
  ordered := by
    have kept := (filed.append [slot.id]).ordered
    rw [rows_insert filed.sorted, List.pairwise_append, List.pairwise_cons]
    refine ⟨kept.filter _, ⟨?_, kept.filter _⟩, ?_⟩
    · intro row member
      have later := (List.mem_filter.mp member).2
      exact .inl (by simpa using later)
    · intro row member other behind
      obtain ⟨present, early⟩ := List.mem_filter.mp member
      rw [decide_eq_true_eq] at early
      rcases List.mem_cons.mp behind with rfl | behind
      · rcases Int64.lt_or_eq_of_le early with earlier | tied
        · exact .inl earlier
        · exact .inr ⟨tied, (List.singleton_sublist.mpr (filed.known row present)).append (List.Sublist.refl _)⟩
      · have late := (List.mem_filter.mp behind).2
        exact .inl (Int64.lt_of_le_of_lt early (by simpa using late))

theorem Filed.foldl_insert {q : Queue} {ids : List Id} (filed : q.Filed ids) (slots : List Slot) :
    (slots.foldl Queue.insert q).Filed (ids ++ slots.map Slot.id) := by
  induction slots generalizing q ids with
  | nil => exact filed.append []
  | cons slot slots ih =>
    have rest := ih (filed.insert slot)
    rw [List.append_assoc] at rest
    exact rest

theorem Filed.modify {q : Queue} {ids : List Id} (filed : q.Filed ids) (id : Id) (f : Slot → Slot)
    (limited : ∀ s, f s = { s with student := (f s).student, details := (f s).details }) :
    (q.modify id f).Filed ids := by
  have same := q.map_rows_modify (fun s => (s.id, s.scheduledTime)) id f fun s => by rw [limited s]
  constructor
  · intro row member
    obtain ⟨old, present, equal⟩ := List.mem_map.mp (same ▸ List.mem_map_of_mem member)
    have named : old.id = row.id := congrArg Prod.fst equal
    rw [← named]
    exact filed.known old present
  · have ordered : (q.rows.map fun s => (s.id, s.scheduledTime)).Pairwise fun a b =>
        a.2 < b.2 ∨ a.2 = b.2 ∧ [a.1, b.1].Sublist ids := List.pairwise_map.mpr filed.ordered
    rw [← same, List.pairwise_map] at ordered
    exact ordered

theorem Filed.apply {q : Queue} {ids : List Id} (filed : q.Filed ids) (e : Event) :
    (q.apply e).Filed (ids ++ e.newIds) := by
  cases q.changes e with
  | replaced queue schedule event result =>
    rw [result]
    exact (filed.append _).sublist (List.Sublist.refl _)
  | grown result =>
    rw [result]
    exact filed.foldl_insert e.created
  | modified id f none limited result =>
    rw [result]
    exact (filed.modify id f limited).append _

theorem rows_take_snapshot {q : Queue} (sorted : q.Sorted) (id : Id) (n : Nat) :
    (((q.snapshot id).take n).foldl apply empty).rows = q.rows.take (n - q.allSchedules.length) := by
  rw [snapshot, List.take_append, ← List.map_take, ← List.map_take, List.foldl_append, List.foldl_map, List.foldl_map,
    List.length_map]
  change ((q.rows.take _).foldl insert ((q.allSchedules.take n).foldl (fun q s => q.setSchedule s.weekday s) empty)).rows = _
  have none : ((q.allSchedules.take n).foldl (fun q s => q.setSchedule s.weekday s) empty).rows = [] :=
    congrArg Array.toList (slots_foldl_setSchedule empty _)
  rw [rows_foldl_insert, none, List.nil_append]
  rw [none]
  exact sorted.sublist (List.take_sublist _ _)

end Queue

namespace Register

/-- The state is well-formed, each queue has its rows in order of time and those of one time in the order in which
they were brought, and no queue has too many. -/
structure Consistent (r : Register) (ids : List Id) : Prop where
  formed : r.WellFormed
  filed : ∀ queue, (r.content queue).Filed ids
  bounded : ∀ queue, (r.rows queue).length ≤ maxSlotsPerQueue

theorem consistent_empty : empty.Consistent [] where
  formed := wellFormed_empty
  filed := by
    intro queue
    rw [content_empty]
    exact Queue.filed_of_nil Queue.rows_empty []
  bounded := by
    intro queue
    rw [rows_empty]
    exact Nat.zero_le _

theorem Consistent.of_same {r s : Register} {ids : List Id} (consistent : s.Consistent ids) (same : r.Same s) :
    r.Consistent ids where
  formed := consistent.formed.of_same same
  filed := by
    intro queue
    rw [same.content]
    exact consistent.filed queue
  bounded := by
    intro queue
    rw [same.rows]
    exact consistent.bounded queue

theorem Consistent.append {r : Register} {ids : List Id} (consistent : r.Consistent ids) (more : List Id) :
    r.Consistent (ids ++ more) :=
  ⟨consistent.formed, fun queue => (consistent.filed queue).append more, consistent.bounded⟩

theorem Consistent.fresh {r : Register} {ids more : List Id} (consistent : r.Consistent ids)
    (distinct : (ids ++ more).Nodup) : r.Fresh more := by
  obtain ⟨_, new, apart⟩ := List.nodup_append.mp distinct
  refine ⟨new, ?_⟩
  intro id brought queue row member same
  exact apart row.id ((consistent.filed queue).known row member) id brought same

theorem Admits.small {r : Register} {c : Call} {e : Event} {a : c.Answer} (admitted : r.Admits c e a) :
    e.newIds = [] ∨ e.newIds.length + (r.rows e.queue).length ≤ maxSlotsPerQueue := by
  cases admitted with
  | insert small room free => exact .inr (by rw [Nat.add_comm]; exact small)
  | publish filled small =>
    right
    rw [Event.newIds, Event.created, List.length_map, List.length_map, Nat.add_comm]
    exact small
  | _ => exact .inl rfl

theorem Consistent.apply {r : Register} {ids : List Id} (consistent : r.Consistent ids) {c : Call} {e : Event}
    {a : c.Answer} (admitted : r.Admits c e a) (distinct : (ids ++ e.newIds).Nodup) :
    (r.apply e).Consistent (ids ++ e.newIds) where
  formed := consistent.formed.apply (consistent.fresh distinct) admitted.addressed
  filed := by
    intro queue
    rw [content_apply]
    split
    · exact (consistent.filed queue).apply e
    · exact (consistent.filed queue).append _
  bounded := by
    intro queue
    have before := consistent.bounded queue
    by_cases own : queue = e.queue
    · have count := (Queue.ids_apply_perm (r.content e.queue) e).length_eq
      rw [List.length_map, List.length_append, List.length_map] at count
      rw [own, rows_apply_self, count]
      rcases admitted.small with none | small
      · rw [none, List.length_nil, Nat.zero_add, ← own]
        exact before
      · exact small
    · rw [rows_apply_other r e own]
      exact before

section

variable {r : Register} {queues : List (Id × Queue)}

theorem rows_take_snapshotOf (formed : r.WellFormed) (listed : queues.Perm r.queues.toList) (n : Nat) (queue : Id) :
    ((ofEvents ((snapshotOf queues).take n)).rows queue).Sublist (r.rows queue) := by
  have fewer := (List.take_prefix n (snapshotOf queues)).filter fun e => e.queue = queue
  rw [rows, ofEvents, content_applyAll, content_empty]
  cases found : r.queue? queue with
  | none =>
    have other : ∀ p ∈ queues, p.1 ≠ queue := by
      rintro ⟨id, q⟩ member rfl
      rw [(mem_listed listed).mp member] at found
      contradiction
    rw [filter_snapshotOf_other formed listed (fun _ present => present) other, List.prefix_nil] at fewer
    rw [fewer]
    exact List.nil_sublist _
  | some q =>
    have member := (mem_listed listed).mpr found
    have sorted := formed.orderly.sorted queue
    rw [content_of_listed listed member] at sorted
    rw [filter_snapshotOf formed listed member] at fewer
    rw [List.prefix_iff_eq_take.mp fewer, Queue.rows_take_snapshot sorted, rows, content_of_listed listed member]
    exact List.take_sublist _ _

theorem Consistent.take_snapshotOf {ids : List Id} (consistent : r.Consistent ids)
    (listed : queues.Perm r.queues.toList) (n : Nat) : (ofEvents ((snapshotOf queues).take n)).Consistent ids where
  formed := by
    have fewer : ((snapshotOf queues).take n).Sublist (snapshotOf queues) := List.take_sublist _ _
    have distinct := (consistent.formed.nodup_snapshotOf listed).sublist (fewer.flatMap Event.newIds)
    refine wellFormed_empty.applyAll (fresh_empty distinct) ?_
    intro e member
    obtain ⟨p, _, event⟩ := List.mem_flatMap.mp (fewer.subset member)
    exact snapshot_addressed event
  filed := fun queue => (consistent.filed queue).sublist (rows_take_snapshotOf consistent.formed listed n queue)
  bounded := fun queue =>
    Nat.le_trans (rows_take_snapshotOf consistent.formed listed n queue).length_le (consistent.bounded queue)

end

end Register

namespace Store

/-- What calls, compactions and restarts can come to from an empty log, with the identifiers that the calls brought
and the events whose records the log is to hold, in order. In between anything may become of the log: the disk fills up
or has room again, and what was held goes out late; the writer stops; bytes are lost. A restart finds the records that
the log is to hold and nothing else. -/
inductive Reached : List Id → List Event → Store → Prop
  | opened {d : Log.Disk} (blank : d.bytes = []) : Reached [] [] (Store.open d)
  | called {ids : List Id} {es : List Event} {s : Store} (reached : Reached ids es s) (c : Call) :
      Reached (ids ++ c.newIds) (es ++ (c.event? s.register.homes (s.answer c).1).toList) (s.answer c).2
  | compacted {ids : List Id} {es : List Event} {s : Store} {queues : List (Id × Queue)} (reached : Reached ids es s)
      (listed : queues.Perm s.register.queues.toList) :
      Reached ids (if (s.compactIn queues).1 = .ok () then Register.snapshotOf queues else es) (s.compactIn queues).2
  | reopened {ids : List Id} {es : List Event} {s : Store} {d : Log.Disk} (reached : Reached ids es s)
      (log : d.bytes = Log.records es) (addressable : ∀ e ∈ es, Log.Addressable e) : Reached ids es (Store.open d)
  | worn {ids : List Id} {es : List Event} {s : Store} (reached : Reached ids es s) (journal : Log.Journal) :
      Reached ids es { s with journal }

/-- The state is consistent, and so is what a restart would make of the records of the events, which may stop before
one that is too long; otherwise it is the state in memory. -/
structure Restorable (s : Store) (ids : List Id) (es : List Event) : Prop where
  consistent : s.register.Consistent ids
  restored : (Register.ofEvents (Log.readable es)).Consistent ids
  same : (∀ e ∈ es, Log.Short e) → s.register.Same (Register.ofEvents es)

theorem restorable_open {d : Log.Disk} (blank : d.bytes = []) : (Store.open d).Restorable [] [] := by
  have empty : (Store.open d).register = .empty := by
    rw [Store.open, blank]
    rfl
  exact ⟨empty ▸ Register.consistent_empty, Register.consistent_empty, fun _ => empty ▸ Register.Same.refl _⟩

theorem Restorable.answer {s : Store} {ids : List Id} {es : List Event} (restorable : s.Restorable ids es) (c : Call)
    (distinct : (ids ++ c.newIds).Nodup) :
    (s.answer c).2.Restorable (ids ++ c.newIds) (es ++ (c.event? s.register.homes (s.answer c).1).toList) := by
  obtain ⟨consistent, restored, short⟩ := restorable
  rcases (s.outcome c).quiet_or_applied with ⟨quiet, same⟩ | ⟨e, admitted, same⟩
  · rw [Call.event?_of_quiet _ quiet, Option.toList_none, List.append_nil]
    exact ⟨(consistent.of_same same).append _, restored.append _, fun all => same.trans (short all)⟩
  · have applied := consistent.apply admitted (admitted.newIds ▸ distinct)
    rw [admitted.newIds] at applied
    have led : (∀ f ∈ es, Log.Short f) → (Register.ofEvents (es ++ [e])).Same (s.register.apply e) := by
      intro all
      rw [Register.ofEvents, Register.applyAll_append]
      exact ((short all).apply e).symm
    rw [admitted.event?_eq, Option.toList_some]
    refine ⟨applied.of_same same, ?_, ?_⟩
    · by_cases all : ∀ f ∈ es, Log.Short f
      · rw [Log.readable_of_short all, Log.readable, List.takeWhile_cons]
        by_cases fits : Log.Short e
        · rw [decide_eq_true fits, if_pos rfl]
          exact applied.of_same (led all)
        · rw [decide_eq_false fits, if_neg Bool.false_ne_true, List.append_nil]
          exact (consistent.of_same (short all).symm).append _
      · -- A record behind one that is too long is never read.
        rw [Log.readable_of_long all]
        exact restored.append _
    · intro all
      exact same.trans (led fun f member => all f (List.mem_append_left _ member)).symm

theorem Restorable.compactIn {s : Store} {ids : List Id} {es : List Event} (restorable : s.Restorable ids es)
    {queues : List (Id × Queue)} (listed : queues.Perm s.register.queues.toList) :
    (s.compactIn queues).2.Restorable ids
      (if (s.compactIn queues).1 = .ok () then Register.snapshotOf queues else es) := by
  have consistent := restorable.consistent
  obtain ⟨n, first⟩ : ∃ n, Log.readable (Register.snapshotOf queues) = (Register.snapshotOf queues).take n :=
    ⟨_, List.prefix_iff_eq_take.mp (List.takeWhile_prefix _)⟩
  have register := s.register_compactIn queues
  split
  · refine ⟨register.symm ▸ consistent, ?_, fun _ => register.symm ▸ (consistent.formed.snapshotOf_same listed).symm⟩
    rw [first]
    exact consistent.take_snapshotOf listed n
  · exact ⟨register.symm ▸ consistent, restorable.restored, register.symm ▸ restorable.same⟩

theorem Restorable.reopen {s : Store} {ids : List Id} {es : List Event} (restorable : s.Restorable ids es)
    {d : Log.Disk} (log : d.bytes = Log.records es) (addressable : ∀ e ∈ es, Log.Addressable e) :
    (Store.open d).Restorable ids es := by
  have read : (Store.open d).register = Register.ofEvents (Log.readable es) := by
    rw [Store.open, log, Log.replay_records_readable addressable]
  refine ⟨read ▸ restorable.restored, restorable.restored, fun all => ?_⟩
  have whole := Log.readable_of_short all []
  rw [List.append_nil] at whole
  rw [read, whole, Log.readable, List.takeWhile_nil, List.append_nil]
  exact Register.Same.refl _

theorem Reached.restorable {s : Store} {ids : List Id} {es : List Event} (reached : Reached ids es s)
    (distinct : ids.Nodup) : s.Restorable ids es := by
  induction reached with
  | opened blank => exact restorable_open blank
  | called reached c ih => exact (ih (List.nodup_append.mp distinct).1).answer c distinct
  | compacted reached listed ih => exact (ih distinct).compactIn listed
  | reopened reached log addressable ih => exact (ih distinct).reopen log addressable
  | worn reached journal ih =>
    obtain ⟨consistent, restored, same⟩ := ih distinct
    exact ⟨consistent, restored, same⟩

theorem Reached.restart {s : Store} {ids : List Id} {es : List Event} (reached : Reached ids es s)
    (keeps : s.journal.Keeps es) (addressable : ∀ e ∈ es, Log.Addressable e) :
    Reached ids es (Store.open s.journal.disk) ∧ (Store.open s.journal.disk).journal.Keeps es := by
  have opened := Log.Journal.holds_open keeps.steady
  rw [keeps.bytes] at opened
  exact ⟨reached.reopened keeps.bytes addressable, opened⟩

theorem Reached.after {ids : List Id} {es : List Event} {s : Store} (reached : Reached ids es s) (calls : List Call) :
    Reached (ids ++ calls.flatMap Call.newIds) (es ++ s.written calls) (s.after calls) := by
  induction calls generalizing s ids es with
  | nil =>
    rw [List.flatMap_nil, List.append_nil, written, List.append_nil]
    exact reached
  | cons c calls ih =>
    have rest := ih (reached.called c)
    rw [List.append_assoc, List.append_assoc] at rest
    exact rest

end Store

end Bookings
