import Bookings.Proofs.Log.Tail
import Bookings.Proofs.Store.Snapshot
import Bookings.Proofs.Store.Written

namespace Bookings

theorem Queue.ids_foldl_apply_perm (q : Queue) (es : List Event) :
    ((es.foldl apply q).rows.map Slot.id).Perm (es.flatMap Event.newIds ++ q.rows.map Slot.id) := by
  induction es generalizing q with
  | nil => exact List.Perm.refl _
  | cons e es ih =>
    have first := (q.ids_apply_perm e).append_left (es.flatMap Event.newIds)
    have all := (ih (q.apply e)).trans first
    rw [List.flatMap_cons, List.append_assoc]
    exact all.trans (List.perm_append_comm_assoc _ _ _)

namespace Register

theorem ids_ofEvents_perm (es : List Event) (queue : Id) :
    (((ofEvents es).rows queue).map Slot.id).Perm ((es.filter fun e => e.queue = queue).flatMap Event.newIds) := by
  have all := Queue.ids_foldl_apply_perm .empty (es.filter fun e => e.queue = queue)
  rw [rows, ofEvents, content_applyAll, content_empty]
  rw [Queue.rows_empty, List.map_nil, List.append_nil] at all
  exact all

/-- Of events that create rows of different identifiers, a state built from the first few has all rows of each event
or none. -/
theorem whole_or_absent {es : List Event} (distinct : (es.flatMap Event.newIds).Nodup) (n : Nat) {e : Event}
    (member : e ∈ es) :
    (∀ id ∈ e.newIds, id ∈ ((ofEvents (es.take n)).rows e.queue).map Slot.id) ∨
      ∀ id ∈ e.newIds, ∀ queue, id ∉ ((ofEvents (es.take n)).rows queue).map Slot.id := by
  have split : es = es.take n ++ es.drop n := (List.take_append_drop n es).symm
  rw [split, List.mem_append] at member
  rw [split, List.flatMap_append] at distinct
  rcases member with early | late
  · left
    intro id new
    rw [(ids_ofEvents_perm _ _).mem_iff, List.mem_flatMap]
    exact ⟨e, List.mem_filter.mpr ⟨early, decide_eq_true rfl⟩, new⟩
  · -- The event was cut off, and no event kept creates a row of its identifiers.
    right
    intro id new queue present
    rw [(ids_ofEvents_perm _ _).mem_iff, List.mem_flatMap] at present
    obtain ⟨other, kept, old⟩ := present
    have before : id ∈ (es.take n).flatMap Event.newIds :=
      List.mem_flatMap.mpr ⟨other, (List.mem_filter.mp kept).1, old⟩
    have behind : id ∈ (es.drop n).flatMap Event.newIds := List.mem_flatMap.mpr ⟨e, late, new⟩
    exact (List.nodup_append.mp distinct).2.2 id before id behind rfl

end Register

namespace Store

theorem written_take {s : Store} {calls : List Call} {n : Nat} (bound : n ≤ (s.written calls).length) :
    ∃ m ≤ calls.length, s.written (calls.take m) = (s.written calls).take n := by
  induction calls generalizing s n with
  | nil => exact ⟨0, Nat.le_refl 0, List.take_nil.symm⟩
  | cons c calls ih =>
    cases n with
    | zero => exact ⟨0, Nat.zero_le _, rfl⟩
    | succ n =>
      rw [written] at bound ⊢
      cases written_ : c.event? s.register.homes (s.answer c).1 with
      | none =>
        rw [written_, Option.toList_none, List.nil_append] at bound
        obtain ⟨m, inside, same⟩ := ih bound
        refine ⟨m + 1, Nat.succ_le_succ inside, ?_⟩
        rw [List.take_succ_cons, written, written_, same, Option.toList_none, List.nil_append, List.nil_append]
      | some e =>
        rw [written_, Option.toList_some, List.singleton_append, List.length_cons] at bound
        obtain ⟨m, inside, same⟩ := ih (Nat.le_of_succ_le_succ bound)
        refine ⟨m + 1, Nat.succ_le_succ inside, ?_⟩
        rw [List.take_succ_cons, written, written_, same, Option.toList_some, List.singleton_append,
          List.singleton_append, List.take_succ_cons]

section

variable {d crashed : Log.Disk} {past : List Event} {calls : List Call} {count : Nat}

theorem extends_records (steady : d.Steady) (log : d.bytes = Log.records past) (short : ∀ e ∈ past, Log.Short e)
    (calls : List Call) :
    ((Store.open d).after calls).journal.disk.bytes = Log.records (past ++ (Store.open d).written calls) ∧
      ((Store.open d).after calls).register.Same (Register.ofEvents (past ++ (Store.open d).written calls)) := by
  have extended := (extends_open steady).after calls
  rw [List.nil_append, log] at extended
  constructor
  · rw [extended.holds.bytes, Log.records_append]
  · have same := extended.same
    rw [Log.replay_records short, Register.ofEvents, ← Register.applyAll_append] at same
    exact same

theorem reopen_after_cut (steady : d.Steady) (log : d.bytes = Log.records past)
    (short : ∀ e ∈ past ++ (Store.open d).written calls, Log.Short e)
    (cut : crashed.bytes = ((Store.open d).after calls).journal.disk.bytes.take count) :
    let es := past ++ (Store.open d).written calls
    ∃ n ≤ es.length, (Store.open crashed).register = Register.ofEvents (es.take n) ∧
      (∀ i ≤ es.length, (Log.records (es.take i)).length ≤ count ↔ i ≤ n) ∧
      (past.length ≤ n → ∃ m ≤ calls.length, es.take n = past ++ (Store.open d).written (calls.take m) ∧
        (Store.open crashed).register.Same ((Store.open d).after (calls.take m)).register) := by
  intro es
  have old : ∀ e ∈ past, Log.Short e := fun e member => short e (List.mem_append_left _ member)
  obtain ⟨n, bound, replayed, ends⟩ := Log.replay_take_records short count
  have register : (Store.open crashed).register = Register.ofEvents (es.take n) := by
    rw [Store.open, cut, (extends_records steady log old calls).1, replayed]
  refine ⟨n, bound, register, ends, ?_⟩
  intro behind
  -- The cut lies behind the records of the start, so what it leaves of the others are the first few.
  have fewer : n - past.length ≤ ((Store.open d).written calls).length := by
    rw [List.length_append] at bound
    omega
  obtain ⟨m, inside, same⟩ := written_take fewer
  have kept : es.take n = past ++ (Store.open d).written (calls.take m) := by
    rw [List.take_append, List.take_of_length_le behind, same]
  refine ⟨m, inside, kept, ?_⟩
  rw [register, kept]
  exact (extends_records steady log old (calls.take m)).2.symm

end

/-- Replay of a log that is cut off at any byte gives the events whose records end there or before. A store that is
opened on what a crash left of its log has the state after the first few of its writes, and of each event in the log
all rows or none. -/
theorem crash_keeps_first_writes :
    (∀ {es : List Event} (count : Nat), (∀ e ∈ es, Log.Short e) →
      ∃ n ≤ es.length, Log.replay ((Log.records es).take count) = es.take n ∧
        ∀ i ≤ es.length, (Log.records (es.take i)).length ≤ count ↔ i ≤ n) ∧
      ∀ {d crashed : Log.Disk} {past : List Event} {calls : List Call} {count : Nat}, d.Steady →
        d.bytes = Log.records past →
        (∀ e ∈ past ++ (Store.open d).written calls, Log.Short e) →
          crashed.bytes = ((Store.open d).after calls).journal.disk.bytes.take count →
            let es := past ++ (Store.open d).written calls
            (∃ n ≤ es.length, (Store.open crashed).register = Register.ofEvents (es.take n) ∧
              (∀ i ≤ es.length, (Log.records (es.take i)).length ≤ count ↔ i ≤ n) ∧
              (past.length ≤ n → ∃ m ≤ calls.length, es.take n = past ++ (Store.open d).written (calls.take m) ∧
                (Store.open crashed).register.Same ((Store.open d).after (calls.take m)).register) ∧
              ∀ queue, (((Store.open crashed).register.rows queue).map Slot.id).Perm
                (((es.take n).filter fun e => e.queue = queue).flatMap Event.newIds)) ∧
            ((es.flatMap Event.newIds).Nodup → ∀ e ∈ es,
              (∀ id ∈ e.newIds, id ∈ ((Store.open crashed).register.rows e.queue).map Slot.id) ∨
                ∀ id ∈ e.newIds, ∀ queue, id ∉ ((Store.open crashed).register.rows queue).map Slot.id) := by
  constructor
  · intro es count short
    exact Log.replay_take_records short count
  · intro d crashed past calls count steady log short cut es
    obtain ⟨n, bound, register, ends, first⟩ := reopen_after_cut steady log short cut
    refine ⟨⟨n, bound, register, ends, first, ?_⟩, ?_⟩
    · intro queue
      rw [register]
      exact Register.ids_ofEvents_perm _ queue
    · intro distinct e member
      rw [register]
      exact Register.whole_or_absent distinct n member

theorem crash_keeps_first_writes_busyCalls :
    let es := (Store.open {}).written busyCalls
    let crashed := Log.Disk.ofBytes (((Store.open {}).after busyCalls).journal.disk.bytes.take 400)
    (Store.open crashed).register = Register.ofEvents (es.take 2) ∧
      (∃ m ≤ 8, es.take 2 = (Store.open {}).written (busyCalls.take m) ∧
        (Store.open crashed).register.Same ((Store.open {}).after (busyCalls.take m)).register) ∧
      ∀ id ∈ [Id.ofNat 1, Id.ofNat 2], id ∈ ((Store.open crashed).register.rows (Id.ofNat 7)).map Slot.id := by
  intro es crashed
  have steady : Log.Disk.Steady {} := .inl ⟨rfl, rfl⟩
  have log : Log.Disk.bytes {} = Log.records [] := rfl
  have short : ∀ e ∈ [] ++ (Store.open {}).written busyCalls, Log.Short e := by decide +kernel
  have cut : crashed.bytes = ((Store.open {}).after busyCalls).journal.disk.bytes.take 400 := Log.Disk.bytes_ofBytes _
  obtain ⟨⟨n, bound, register, ends, first, ids⟩, _⟩ := crash_keeps_first_writes.2 steady log short cut
  rw [List.nil_append] at bound register ends first ids
  have five : ((Store.open {}).written busyCalls).length = 5 := by decide +kernel
  have two : 2 ≤ n := (ends 2 (by omega)).mp (by decide +kernel)
  have third : ¬3 ≤ n := fun more => absurd ((ends 3 (by omega)).mpr more) (by decide +kernel)
  obtain rfl : n = 2 := by omega
  refine ⟨register, first (Nat.zero_le _), ?_⟩
  intro id published
  rw [(ids (Id.ofNat 7)).mem_iff]
  exact (by decide +kernel : ∀ id ∈ [Id.ofNat 1, Id.ofNat 2],
    id ∈ ((es.take 2).filter fun e => e.queue = Id.ofNat 7).flatMap Event.newIds) id published

/-- Whatever the log was at the start, a restart replays the writes behind the tail that the first replay left
unread. Behind an intact log all of them count; behind a tail that stays bad none does. -/
theorem restart_replays_behind_tail {d : Log.Disk} (steady : d.Steady) (calls : List Call) :
    let s := (Store.open d).after calls
    let tail := Log.unread d.bytes
    (Store.open s.journal.disk).register =
        Register.ofEvents (Log.replay d.bytes ++ Log.replay (tail ++ Log.records ((Store.open d).written calls))) ∧
      (Log.Intact d.bytes → (∀ e ∈ (Store.open d).written calls, Log.Short e) →
        (Store.open s.journal.disk).register.Same s.register ∧ Log.Intact s.journal.disk.bytes) ∧
      ((∀ more, Log.readRecord? (tail ++ more) = none) →
        (Store.open s.journal.disk).register = (Store.open d).register) := by
  intro s tail
  have extended : s.Extends d.bytes ((Store.open d).written calls) := (extends_open steady).after calls
  have reopened : (Store.open s.journal.disk).register =
      Register.ofEvents (Log.replay d.bytes ++ Log.replay (tail ++ Log.records ((Store.open d).written calls))) := by
    rw [Store.open, extended.holds.bytes, Log.replay_append]
  refine ⟨reopened, ?_, ?_⟩
  · intro intact short
    have none : tail = [] := intact
    constructor
    · rw [reopened, none, List.nil_append, Log.replay_records short, Register.ofEvents, Register.applyAll_append]
      exact extended.same.symm
    · rw [extended.holds.bytes, Log.Intact, Log.unread_append, intact, List.nil_append]
      exact Log.intact_records short
  · intro bad
    rw [reopened, Log.replay_of_none (bad _), List.append_nil]
    rfl

/-- A log whose only record, that of no bytes, has a wrong checksum. -/
def scratchedLog : List UInt8 := [0, 0, 0, 0, 1, 0, 0, 0]

def replacement : Call := .replaceSchedule (Id.ofNat 7) ⟨3, 30, ⟨['2', '1'].filterMap Capacities.digit?⟩⟩ ⟨0, 10⟩

theorem restart_replays_behind_tail_scratchedLog :
    let d := Log.Disk.ofBytes scratchedLog
    replacement.acknowledges ((Store.open d).answer replacement).1 = true ∧
      (Store.open ((Store.open d).after [replacement]).journal.disk).register = (Store.open d).register ∧
      let s := (Store.open {}).after busyCalls
      (Store.open s.journal.disk).register.Same s.register ∧ Log.Intact s.journal.disk.bytes := by
  intro d
  have unread : Log.unread d.bytes = scratchedLog := Log.unread_of_none (by decide +kernel)
  have short : ∀ e ∈ (Store.open {}).written busyCalls, Log.Short e := by decide +kernel
  have clean : Log.Intact (Log.Disk.bytes {}) := Log.unread_of_none (by decide +kernel)
  have working : Log.Disk.Steady {} := .inl ⟨rfl, rfl⟩
  have steady : d.Steady := .inl ⟨rfl, rfl⟩
  refine ⟨by decide +kernel, (restart_replays_behind_tail steady [replacement]).2.2 ?_,
    (restart_replays_behind_tail working busyCalls).2.1 clean short⟩
  rw [unread]
  have sized : Log.readWord? 4 scratchedLog = some (0, [1, 0, 0, 0]) := rfl
  have cut : Log.takeBytes? 0 [1, 0, 0, 0] = some ([], [1, 0, 0, 0]) := rfl
  have summed : Log.readWord32? [1, 0, 0, 0] = some (1, []) := rfl
  exact Log.readRecord?_of_mismatch sized cut summed (by decide +kernel)

theorem acknowledged_write_lost :
    let d := Log.Disk.ofBytes [0]
    let s := (Store.open d).after [replacement]
    replacement.acknowledges ((Store.open d).answer replacement).1 = true ∧
      s.register.schedule? (Id.ofNat 7) 3 = some ⟨3, 30, ⟨[2, 1]⟩⟩ ∧
      (Store.open s.journal.disk).register.schedule? (Id.ofNat 7) 3 = none ∧
      ¬(Store.open s.journal.disk).register.Same s.register := by
  intro d s
  have kept : s.register.schedule? (Id.ofNat 7) 3 = some ⟨3, 30, ⟨[2, 1]⟩⟩ := by decide +kernel
  have lost : (Store.open s.journal.disk).register.schedule? (Id.ofNat 7) 3 = none := by decide +kernel
  refine ⟨by decide +kernel, kept, lost, ?_⟩
  intro same
  rw [same.schedule?, kept] at lost
  contradiction

end Store

end Bookings
