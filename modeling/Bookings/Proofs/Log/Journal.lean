import Bookings.Log.Disk
import Bookings.Proofs.Log.Replay

namespace Bookings.Log

namespace Disk

/-- Takes all that is written and brings it to safety. -/
structure Working (d : Disk) : Prop where
  roomy : d.room = none
  syncs : d.syncs = true

/-- Takes all that is written, or nothing. -/
def Steady (d : Disk) : Prop := d.Working ∨ d.room = some 0

variable (d : Disk) (bytes : ByteArray)

theorem bytes_extend : (d.extend bytes).bytes = d.bytes ++ bytes.data.toList := by
  obtain ⟨log, draft, room, syncs, blocked⟩ := d
  cases log with
  | none =>
    simp only [Disk.extend, Disk.bytes, Option.getD_none, ByteArray.empty_append, List.nil_append]
  | some file =>
    simp only [Disk.extend, Disk.bytes, Option.getD_some, ByteArray.data_append, Array.toList_append]

theorem bytes_take : ∃ taken, (d.take bytes).1.bytes = d.bytes ++ taken ∧
    taken ++ (d.take bytes).2.data.toList = bytes.data.toList := by
  unfold take
  split
  · exact ⟨_, bytes_extend d bytes, List.append_nil _⟩
  · exact ⟨[], (List.append_nil _).symm, rfl⟩
  · rename_i room _ _
    refine ⟨_, bytes_extend d (bytes.extract 0 room), ?_⟩
    have rest : ((bytes.data.toList.drop room).take (bytes.size - room)) = bytes.data.toList.drop room := by
      apply List.take_of_length_le
      rw [List.length_drop, Array.length_toList]
      exact Nat.le_refl _
    simp only [ByteArray.data_extract, Array.toList_extract, List.extract, Nat.sub_zero, List.drop_zero, rest,
      List.take_append_drop]

theorem blocked_take : (d.take bytes).1.blocked = d.blocked := by
  unfold take
  split <;> rfl

variable {d}

theorem Working.take (working : d.Working) : d.take bytes = (d.extend bytes, ByteArray.empty) := by
  rw [Disk.take, working.roomy]

theorem Working.create (working : d.Working) : d.create.Working := ⟨working.roomy, working.syncs⟩

theorem Working.extend (working : d.Working) : (d.extend bytes).Working := ⟨working.roomy, working.syncs⟩

theorem take_of_full (full : d.room = some 0) : d.take bytes = (d, bytes) := by
  simp only [Disk.take, full]

end Disk

namespace Attempt

structure Sends (a : Attempt) (w : Writer) (d : Disk) (sent : List UInt8) : Prop where
  grown : d.bytes <+: a.disk.bytes
  kept : ∃ kept, kept <+: sent ∧ (a.result = .ok () → kept = sent) ∧
    a.disk.bytes ++ a.writer.held.data.toList = d.bytes ++ w.held.data.toList ++ kept

theorem Sends.andThen {a : Attempt} {next : Writer → Disk → Attempt} {w : Writer} {d : Disk} {first second : List UInt8}
    (sends : a.Sends w d first) (after : ∀ w d, (next w d).Sends w d second) :
    (a.andThen next).Sends w d (first ++ second) := by
  obtain ⟨result, disk, writer⟩ := a
  obtain ⟨grown, early, part, whole, same⟩ := sends
  cases result with
  | error cause => exact ⟨grown, early, part.trans (List.prefix_append first second), nofun, same⟩
  | ok done =>
    obtain rfl : early = first := whole rfl
    obtain ⟨further, late, part, whole, rest⟩ := after writer disk
    refine ⟨grown.trans further, early ++ late, (List.prefix_append_right_inj early).mpr part, ?_, ?_⟩
    · intro done
      rw [whole done]
    · show _ = d.bytes ++ w.held.data.toList ++ (early ++ late)
      rw [← List.append_assoc, ← same]
      exact rest

theorem andThen_disk {a : Attempt} {next : Writer → Disk → Attempt} {P : Disk → Prop} (first : P a.disk)
    (after : ∀ w d, P d → P (next w d).disk) : P (a.andThen next).disk := by
  obtain ⟨result, disk, writer⟩ := a
  cases result with
  | error cause => exact first
  | ok done => exact after writer disk first

def Crowded (a : Attempt) : Prop := ∀ cause, a.result = .error cause → cause = .full

theorem Crowded.andThen {a : Attempt} {next : Writer → Disk → Attempt} (first : a.Crowded)
    (after : ∀ w d, (next w d).Crowded) : (a.andThen next).Crowded := by
  obtain ⟨result, disk, writer⟩ := a
  cases result with
  | error cause => exact first
  | ok done => exact after writer disk

structure Succeeds (a : Attempt) : Prop where
  done : a.result = .ok ()
  working : a.disk.Working

theorem Succeeds.andThen {a : Attempt} {next : Writer → Disk → Attempt} (first : a.Succeeds)
    (after : ∀ w d, d.Working → (next w d).Succeeds) : (a.andThen next).Succeeds := by
  obtain ⟨result, disk, writer⟩ := a
  obtain rfl : result = .ok () := first.done
  exact after writer disk first.working

end Attempt

namespace Writer

variable {w : Writer} {d : Disk}

theorem complete_eq_ok {rest : ByteArray} : complete rest = .ok () ↔ rest.data.toList = [] := by
  have same : rest.data.toList.length = rest.size := rest.data.length_toList
  rw [← List.length_eq_zero_iff, same, complete]
  split
  · rename_i none
    exact ⟨fun _ => none, fun _ => rfl⟩
  · rename_i some
    exact ⟨nofun, fun none => absurd none some⟩

theorem crowded_complete (rest : ByteArray) (d : Disk) (w : Writer) : Attempt.Crowded ⟨complete rest, d, w⟩ := by
  intro cause refused
  change complete rest = .error cause at refused
  rw [complete] at refused
  by_cases none : rest.size = 0
  · rw [if_pos none] at refused
    cases refused
  · rw [if_neg none] at refused
    cases refused
    rfl

theorem sends_drain (w : Writer) (d : Disk) : (w.drain d).Sends w d [] := by
  obtain ⟨taken, bytes, whole⟩ := d.bytes_take w.held
  refine ⟨⟨taken, bytes.symm⟩, [], List.prefix_rfl, fun _ => rfl, ?_⟩
  show (d.take w.held).1.bytes ++ (d.take w.held).2.data.toList = _
  rw [bytes, List.append_assoc, whole, List.append_nil]

theorem held_of_drain (done : (w.drain d).result = .ok ()) : (w.drain d).writer.held.data.toList = [] :=
  complete_eq_ok.mp done

theorem sends_hold (w : Writer) (d : Disk) (part : ByteArray) :
    Attempt.Sends ⟨.ok (), d, w.hold part⟩ w d part.data.toList := by
  refine ⟨List.prefix_rfl, _, List.prefix_rfl, fun _ => rfl, ?_⟩
  show d.bytes ++ (w.held ++ part).data.toList = _
  rw [ByteArray.data_append, Array.toList_append, List.append_assoc]

theorem sends_put (part : ByteArray) (w : Writer) (d : Disk) : (w.put part d).Sends w d part.data.toList := by
  have drained := w.sends_drain d
  have empty := held_of_drain (w := w) (d := d)
  unfold put
  split
  · exact w.sends_hold d part
  · revert drained empty
    rcases w.drain d with ⟨_ | ⟨⟨⟩⟩, disk, writer⟩ <;> intro drained empty
    · obtain ⟨grown, kept, early, _, same⟩ := drained
      exact ⟨grown, kept, early.trans (List.nil_prefix), nofun, same⟩
    · rw [Attempt.andThen]
      split
      · exact List.nil_append part.data.toList ▸ drained.andThen fun _ _ => Writer.sends_hold _ _ part
      · -- Nothing is held any more, so what the disk takes of the part comes right behind.
        have none : writer.held.data.toList = [] := empty rfl
        obtain ⟨grown, kept, early, whole, same⟩ := drained
        obtain rfl : kept = [] := whole rfl
        obtain ⟨taken, bytes, split⟩ := disk.bytes_take part
        refine ⟨grown.trans ⟨taken, bytes.symm⟩, taken, ⟨_, split⟩, ?_, ?_⟩
        · intro done
          rw [← split, complete_eq_ok.mp done, List.append_nil]
        · show (disk.take part).1.bytes ++ writer.held.data.toList = _
          rw [bytes, none, List.append_nil]
          rw [none, List.append_nil, List.append_nil] at same
          rw [← same]

theorem sends_putAll (parts : List ByteArray) (w : Writer) (d : Disk) :
    (w.putAll parts d).Sends w d (parts.flatMap fun part => part.data.toList) := by
  induction parts generalizing w d with
  | nil => exact ⟨List.prefix_rfl, [], List.prefix_rfl, fun _ => rfl, (List.append_nil _).symm⟩
  | cons part rest ih => exact (sends_put part w d).andThen ih

theorem record_ne_nil (e : Event) : record e ≠ [] := by
  intro none
  have length := congrArg List.length none
  rw [record, frame, List.length_append, length_wordBytes, List.length_nil] at length
  omega

theorem flatMap_parts (e : Event) : ((parts e).flatMap fun part => part.data.toList) = record e := by
  simp only [parts, List.flatMap_cons, List.flatMap_nil, List.append_nil, record, frame]

theorem sends_append (e : Event) (w : Writer) (d : Disk) : (w.append e d).Sends w d (record e) := by
  have counted : ∀ w d, Attempt.Sends ⟨.ok (), d, { w with appends := w.appends + 1 }⟩ w d [] := fun w d =>
    ⟨List.prefix_rfl, [], List.prefix_rfl, fun _ => rfl, (List.append_nil _).symm⟩
  have sends := (sends_putAll (parts e) w d).andThen counted
  rw [flatMap_parts, List.append_nil] at sends
  exact sends

theorem sends_flush (w : Writer) (d : Disk) : (w.flush d).Sends w d [] := by
  have synced : ∀ (w : Writer) (d : Disk),
      Attempt.Sends ⟨if d.syncs then .ok () else .error .unsynced, d, w⟩ w d [] := fun _ _ =>
    ⟨List.prefix_rfl, [], List.prefix_rfl, fun _ => rfl, (List.append_nil _).symm⟩
  exact (sends_drain w d).andThen synced

theorem held_of_flush (roomy : (w.flush d).result ≠ .error .full) : (w.flush d).writer.held.data.toList = [] := by
  have empty := held_of_drain (w := w) (d := d)
  have crowded : (w.drain d).Crowded := crowded_complete _ _ _
  unfold flush at roomy ⊢
  revert empty crowded roomy
  rcases w.drain d with ⟨cause | ⟨⟨⟩⟩, disk, writer⟩ <;> intro roomy empty crowded
  · obtain rfl := crowded cause rfl
    exact absurd rfl roomy
  · exact empty rfl

theorem crowded_put (part : ByteArray) (w : Writer) (d : Disk) : (w.put part d).Crowded := by
  unfold put
  split
  · exact nofun
  · refine (crowded_complete _ _ _).andThen fun w d => ?_
    split
    · exact nofun
    · exact crowded_complete _ _ _

theorem crowded_append (e : Event) (w : Writer) (d : Disk) : (w.append e d).Crowded := by
  have all : ∀ parts w d, (putAll parts w d).Crowded := by
    intro parts
    induction parts with
    | nil => exact fun _ _ => nofun
    | cons part rest ih => exact fun w d => (crowded_put part w d).andThen ih
  exact (all (parts e) w d).andThen fun _ _ => nofun

theorem write_eq (e : Event) (w : Writer) (d : Disk) :
    let appended := w.append e d
    let flushed := appended.writer.flush appended.disk
    w.write e d = ⟨appended.result.bind fun _ => flushed.result, flushed.disk, flushed.writer⟩ := by
  unfold write
  rfl

theorem sends_write (e : Event) (w : Writer) (d : Disk) : (w.write e d).Sends w d (record e) := by
  obtain ⟨grown, kept, early, whole, same⟩ := sends_append e w d
  obtain ⟨further, none, nothing, _, rest⟩ := sends_flush (w.append e d).writer (w.append e d).disk
  obtain rfl : none = [] := List.prefix_nil.mp nothing
  rw [write_eq]
  refine ⟨grown.trans further, kept, early, ?_, ?_⟩
  · intro done
    apply whole
    dsimp only at done
    cases appended : (w.append e d).result with
    | error cause =>
      rw [appended] at done
      cases done
    | ok => rfl
  · rw [← same, ← List.append_nil ((w.append e d).disk.bytes ++ _)]
    exact rest

theorem bytes_of_roomy {e : Event} (roomy : (w.write e d).result ≠ .error .full) :
    (w.write e d).disk.bytes = d.bytes ++ w.held.data.toList ++ record e ∧
      (w.write e d).writer.held.data.toList = [] := by
  obtain ⟨_, kept, _, whole, same⟩ := sends_append e w d
  obtain ⟨_, none, nothing, _, rest⟩ := sends_flush (w.append e d).writer (w.append e d).disk
  obtain rfl : none = [] := List.prefix_nil.mp nothing
  have crowded := crowded_append e w d
  rw [write_eq] at roomy ⊢
  dsimp only at roomy ⊢
  cases appended : (w.append e d).result with
  | error cause =>
    rw [appended, crowded cause appended] at roomy
    exact absurd rfl roomy
  | ok done =>
    rw [appended] at roomy
    have empty := held_of_flush roomy
    rw [whole appended] at same
    rw [empty, List.append_nil, List.append_nil, same] at rest
    exact ⟨rest, empty⟩

theorem cause_of_write {e : Event} {cause : DiskError} (refused : (w.write e d).result = .error cause) :
    cause = .full ∨ cause = .unsynced := by
  have crowded := crowded_append e w d
  rw [write_eq] at refused
  dsimp only at refused
  revert refused
  cases appended : (w.append e d).result with
  | error first =>
    intro refused
    cases refused
    exact .inl (crowded _ appended)
  | ok done =>
    have drained : ((w.append e d).writer.drain (w.append e d).disk).Crowded := crowded_complete _ _ _
    intro refused
    change (flush _ _).result = _ at refused
    unfold flush at refused
    revert drained refused
    rcases drain _ _ with ⟨first | done, d, v⟩ <;> intro drained refused
    · cases refused
      exact .inl (drained _ rfl)
    · change (if d.syncs then _ else _) = _ at refused
      split at refused <;> cases refused
      exact .inr rfl

section

-- What the disk keeps whatever it takes.
variable {P : Disk → Prop} (taken : ∀ d bytes, P d → P (d.take bytes).1)

include taken

theorem disk_append (e : Event) (w : Writer) (before : P d) : P (w.append e d).disk := by
  have one : ∀ part w d, P d → P (put part w d).disk := by
    intro part w d before
    unfold put
    split
    · exact before
    · refine Attempt.andThen_disk (taken d w.held before) fun w d before => ?_
      split
      · exact before
      · exact taken d part before
  have all : ∀ parts w d, P d → P (putAll parts w d).disk := by
    intro parts
    induction parts with
    | nil => exact fun _ _ before => before
    | cons part rest ih => exact fun w d before => Attempt.andThen_disk (one part w d before) ih
  exact Attempt.andThen_disk (all (parts e) w d before) fun _ _ before => before

theorem disk_write (e : Event) (w : Writer) (before : P d) : P (w.write e d).disk := by
  rw [write_eq]
  exact Attempt.andThen_disk (taken _ _ (disk_append taken e w before)) fun _ _ before => before

end

section

variable (working : d.Working)

include working

theorem succeeds_drain (w : Writer) : (w.drain d).Succeeds := by
  have taken := working.take w.held
  constructor
  · show complete (d.take w.held).2 = .ok ()
    rw [taken]
    rfl
  · show (d.take w.held).1.Working
    rw [taken]
    exact working.extend _

theorem succeeds_put (part : ByteArray) (w : Writer) : (w.put part d).Succeeds := by
  unfold put
  split
  · exact ⟨rfl, working⟩
  · refine (succeeds_drain working w).andThen fun w d working => ?_
    split
    · exact ⟨rfl, working⟩
    · rw [working.take part]
      exact ⟨rfl, working.extend part⟩

theorem succeeds_append (e : Event) (w : Writer) : (w.append e d).Succeeds := by
  have all : ∀ parts w d, d.Working → (putAll parts w d).Succeeds := by
    intro parts
    induction parts with
    | nil => exact fun _ _ working => ⟨rfl, working⟩
    | cons part rest ih => exact fun w d working => (succeeds_put working part w).andThen ih
  exact (all (parts e) w d working).andThen fun _ _ working => ⟨rfl, working⟩

theorem succeeds_flush (w : Writer) : (w.flush d).Succeeds := by
  refine (succeeds_drain working w).andThen fun w d working => ⟨?_, working⟩
  exact if_pos working.syncs

theorem succeeds_write (e : Event) (w : Writer) : (w.write e d).Succeeds := by
  have appended := succeeds_append working e w
  have flushed := succeeds_flush appended.working (w.append e d).writer
  rw [write_eq]
  refine ⟨?_, flushed.working⟩
  dsimp only
  rw [appended.done]
  exact flushed.done

end

section

variable (full : d.room = some 0)

include full

theorem drain_of_full (w : Writer) : w.drain d = ⟨complete w.held, d, w⟩ := by
  rw [drain, Disk.take_of_full w.held full]

theorem write_of_full (e : Event) (w : Writer) : (w.write e d).result = .error .full ∧ (w.write e d).disk = d := by
  have still : ∀ c bytes, c = d → (c.take bytes).1 = d := by
    rintro c bytes rfl
    rw [Disk.take_of_full bytes full]
  have kept := disk_append still e w rfl
  obtain ⟨_, part, _, whole, same⟩ := sends_append e w d
  have crowded := crowded_append e w d
  refine ⟨?_, disk_write still e w rfl⟩
  rw [write_eq]
  dsimp only
  cases appended : (w.append e d).result with
  | error cause => rw [crowded cause appended]; rfl
  | ok done =>
    -- The record is held, so the flush has something to write.
    rw [whole appended, kept, List.append_assoc, List.append_cancel_left_eq] at same
    have some : (w.append e d).writer.held.size ≠ 0 := by
      intro none
      rw [List.eq_nil_of_length_eq_zero (Array.length_toList.trans none)] at same
      exact record_ne_nil e (List.append_eq_nil_iff.mp same.symm).2
    rw [kept, flush, drain_of_full full, complete, if_neg some]
    rfl

end

end Writer

namespace Journal

def held (j : Journal) : List UInt8 :=
  match j.writer with
  | some w => w.held.data.toList
  | none => []

theorem write_of_running (d : Disk) (w : Writer) (e : Event) :
    write ⟨d, some w⟩ e = ((w.write e d).result.mapError .disk, ⟨(w.write e d).disk, some (w.write e d).writer⟩) := rfl

/-- What a refused write leaves of a record, behind what was held: nothing where the writer has stopped, a first part on
disk or held where there was no room, and all of it on disk where only the sync failed. -/
inductive Leaves (j : Journal) (e : Event) : Journal → JournalError → Prop
  | stopped : Leaves j e j .writerStopped
  | crowded {k : Journal} {kept : List UInt8} (grown : j.disk.bytes <+: k.disk.bytes) (part : kept <+: record e)
      (same : k.disk.bytes ++ k.held = j.disk.bytes ++ j.held ++ kept) : Leaves j e k (.disk .full)
  | unsynced {k : Journal} (bytes : k.disk.bytes = j.disk.bytes ++ j.held ++ record e) (flushed : k.held = []) :
      Leaves j e k (.disk .unsynced)

variable {j k : Journal} {e : Event}

theorem write_ok (logged : j.write e = (.ok (), k)) :
    k.disk.bytes = j.disk.bytes ++ j.held ++ record e ∧ k.held = [] := by
  obtain ⟨disk, writer⟩ := j
  cases writer with
  | none => cases logged
  | some w =>
    have roomy := Writer.bytes_of_roomy (w := w) (d := disk) (e := e)
    rw [write_of_running] at logged
    revert roomy logged
    rcases w.write e disk with ⟨cause | done, d, v⟩ <;> intro logged roomy <;> cases logged
    exact roomy nofun

theorem write_error {cause : JournalError} (refused : j.write e = (.error cause, k)) : j.Leaves e k cause := by
  obtain ⟨disk, writer⟩ := j
  cases writer with
  | none =>
    cases refused
    exact .stopped
  | some w =>
    have causes := @Writer.cause_of_write w disk e
    have roomy := Writer.bytes_of_roomy (w := w) (d := disk) (e := e)
    obtain ⟨grown, kept, part, _, same⟩ := Writer.sends_write e w disk
    rw [write_of_running] at refused
    revert causes roomy grown same refused
    rcases w.write e disk with ⟨found | done, d, v⟩ <;> intro refused causes roomy grown same <;> cases refused
    rcases causes rfl with rfl | rfl
    · exact .crowded grown part same
    · obtain ⟨bytes, none⟩ := roomy nofun
      exact .unsynced bytes none

/-- What becomes of the log when a record is refused: a first part of what was held and the record goes out, in that
order. -/
theorem Leaves.bytes {cause : JournalError} (leaves : j.Leaves e k cause) :
    ∃ out, out <+: j.held ++ record e ∧ k.disk.bytes = j.disk.bytes ++ out := by
  cases leaves with
  | stopped => exact ⟨[], List.nil_prefix, (List.append_nil _).symm⟩
  | crowded grown part same =>
    obtain ⟨out, bytes⟩ := grown
    refine ⟨out, ?_, bytes.symm⟩
    rw [← bytes, List.append_assoc, List.append_assoc, List.append_cancel_left_eq] at same
    exact .trans ⟨_, same⟩ ((List.prefix_append_right_inj _).mpr part)
  | unsynced bytes flushed => exact ⟨_, List.prefix_rfl, by rw [bytes, List.append_assoc]⟩

theorem disk_of_write_error {cause : JournalError} (steady : j.disk.Steady) (refused : j.write e = (.error cause, k)) :
    k.disk = j.disk := by
  obtain ⟨disk, writer⟩ := j
  cases writer with
  | none =>
    cases refused
    rfl
  | some w =>
    rw [write_of_running] at refused
    rcases steady with working | full
    · rw [(Writer.succeeds_write working e w).done] at refused
      cases refused
    · obtain rfl := congrArg Prod.snd refused
      exact (Writer.write_of_full full e w).2

structure Ready (j : Journal) : Prop where
  running : j.writer.isSome = true
  unblocked : j.disk.blocked = false

theorem Ready.write (ready : j.Ready) (e : Event) : (j.write e).2.Ready := by
  obtain ⟨disk, writer⟩ := j
  cases writer with
  | none => exact ready
  | some w =>
    refine ⟨rfl, ?_⟩
    have kept : ∀ (d : Disk) bytes, d.blocked = false → (d.take bytes).1.blocked = false :=
      fun d bytes unblocked => (d.blocked_take bytes).trans unblocked
    exact Writer.disk_write (P := fun d => d.blocked = false) kept e w ready.unblocked

structure Working (j : Journal) : Prop where
  running : j.writer.isSome = true
  disk : j.disk.Working

theorem Working.write (working : j.Working) (e : Event) : ∃ k, j.write e = (.ok (), k) ∧ k.Working := by
  obtain ⟨disk, writer⟩ := j
  cases writer with
  | none => exact absurd working.running Bool.false_ne_true
  | some w =>
    have succeeds := Writer.succeeds_write working.disk e w
    refine ⟨⟨(w.write e disk).disk, some (w.write e disk).writer⟩, ?_, rfl, succeeds.working⟩
    rw [write_of_running, succeeds.done]
    rfl

/-- The log holds given bytes, and what the writer still holds cannot get behind them as long as the disk stays as it
is: the disk works and nothing is held, or it takes nothing. -/
structure Holds (j : Journal) (bytes : List UInt8) : Prop where
  bytes : j.disk.bytes = bytes
  settled : j.disk.Working ∧ j.held = [] ∨ j.disk.room = some 0

theorem Holds.steady {bytes : List UInt8} (holds : j.Holds bytes) : j.disk.Steady := holds.settled.imp_left And.left

theorem holds_open {d : Disk} (steady : d.Steady) : («open» d).Holds d.bytes := by
  constructor
  · obtain ⟨log, draft, room, syncs, blocked⟩ := d
    cases log <;> rfl
  · rcases steady with working | full
    · exact .inl ⟨working.create, rfl⟩
    · exact .inr full

theorem working_open {d : Disk} (working : d.Working) : («open» d).Working := ⟨rfl, working.create⟩

theorem Holds.write_ok {bytes : List UInt8} (holds : j.Holds bytes) (logged : j.write e = (.ok (), k)) :
    k.Holds (bytes ++ record e) := by
  have after := Journal.write_ok logged
  rcases holds.settled with ⟨working, none⟩ | full
  · rw [none, List.append_nil, holds.bytes] at after
    refine ⟨after.1, .inl ⟨?_, after.2⟩⟩
    obtain ⟨disk, writer⟩ := j
    cases writer with
    | none => cases logged
    | some w =>
      have succeeds := Writer.succeeds_write working e w
      rw [write_of_running] at logged
      cases congrArg Prod.snd logged
      exact succeeds.working
  · obtain ⟨disk, writer⟩ := j
    cases writer with
    | none => cases logged
    | some w =>
      rw [write_of_running, (Writer.write_of_full full e w).1] at logged
      cases logged

theorem Holds.write_error {bytes : List UInt8} {cause : JournalError} (holds : j.Holds bytes)
    (refused : j.write e = (.error cause, k)) : k.Holds bytes := by
  have kept := disk_of_write_error holds.steady refused
  refine ⟨by rw [kept, holds.bytes], ?_⟩
  rcases holds.settled with ⟨working, empty⟩ | full
  · cases running : j.writer with
    | none =>
      obtain ⟨disk, writer⟩ := j
      obtain rfl : writer = none := running
      cases refused
      exact .inl ⟨working, empty⟩
    | some w =>
      obtain ⟨_, done, _⟩ := Working.write ⟨by rw [running]; rfl, working⟩ e
      rw [refused] at done
      cases done
  · exact .inr (kept ▸ full)

def Keeps (j : Journal) (es : List Event) : Prop := j.Holds (records es)

theorem compact_cases (j : Journal) (es : List Event) :
    (∃ k, j.compact es = (.ok (), k) ∧ k.Keeps es) ∨ ∃ cause, j.compact es = (.error cause, j) ∧ ¬j.Ready := by
  obtain ⟨disk, writer⟩ := j
  cases writer with
  | none => exact .inr ⟨_, rfl, fun ready => Bool.false_ne_true ready.running⟩
  | some w =>
    rw [compact, replaceBy, Disk.writeDraft]
    by_cases blocked : disk.blocked = true
    · rw [if_pos blocked]
      exact .inr ⟨_, rfl, fun ready => Bool.false_ne_true (ready.unblocked.symm.trans blocked)⟩
    · rw [if_neg blocked]
      exact .inl ⟨_, rfl, rfl, .inl ⟨⟨rfl, rfl⟩, rfl⟩⟩

end Journal

end Bookings.Log
