import Bookings.Proofs.Log.Journal
import Bookings.Proofs.Store.Run

namespace Bookings

/-- The change that an acknowledged call stands for, given the queue of each row. -/
def Call.event? (homes : IdMap Id) : (c : Call) → c.Answer → Option Event
  | .replaceSchedule queue schedule _, .ok _ => some (.scheduleReplaced queue schedule)
  | .insert slot _, .ok _ => some (.slotCreated slot)
  | .publish queue slots, .ok count =>
    if count = 0 then none else some (.slotsPublished queue (slots.map (Slot.published queue)))
  | .edit id _ details, .ok _ => homes[id]?.map fun home => .detailsEdited id home details
  | .release id _, .ok true => homes[id]?.map fun home => .claimReleased id home
  | .claim queue _ _ _ email, .ok slot => some (.slotClaimed slot.id queue email)
  | _, _ => none

theorem Call.event?_of_quiet {c : Call} {a : c.Answer} (homes : IdMap Id) (quiet : c.acknowledges a = false) :
    c.event? homes a = none := by
  cases a with
  | error e => cases c <;> rfl
  | ok result =>
    cases c with
    | publish queue slots =>
      have none : result = 0 := by simpa [acknowledges] using quiet
      simp [event?, none]
    | release id email =>
      have kept : result = false := quiet
      rw [kept]
      rfl
    | _ => first | rfl | contradiction

theorem Register.Admits.event?_eq {r : Register} {c : Call} {e : Event} {a : c.Answer} (admitted : r.Admits c e a) :
    c.event? r.homes a = some e := by
  cases admitted with
  | publish filled small =>
    have some : _ ≠ 0 := fun none => filled (List.eq_nil_of_length_eq_zero none)
    exact if_neg some
  | edit indexed present held => rw [Call.event?, indexed, Option.map_some]
  | release indexed present held => rw [Call.event?, indexed, Option.map_some]
  | claim room first taken => rw [Call.event?, (Queue.mem_of_slot? taken).2]
  | _ => rfl

namespace Store

def written : Store → List Call → List Event
  | _, [] => []
  | s, c :: calls => (c.event? s.register.homes (s.answer c).1).toList ++ (s.answer c).2.written calls

/-- The log holds what it held at the start, then the records of some events, and these lead from the state that the
start replays to the state in memory. -/
structure Extends (s : Store) (start : List UInt8) (es : List Event) : Prop where
  holds : s.journal.Holds (start ++ Log.records es)
  same : s.register.Same ((Register.ofEvents (Log.replay start)).applyAll es)

theorem extends_open {d : Log.Disk} (steady : d.Steady) : (Store.open d).Extends d.bytes [] := by
  refine ⟨?_, Register.Same.refl _⟩
  rw [Log.records, List.flatMap_nil, List.append_nil]
  exact Log.Journal.holds_open steady

theorem holds_answer {s : Store} {start : List UInt8} {es : List Event}
    (holds : s.journal.Holds (start ++ Log.records es))
    (c : Call) : (s.answer c).2.journal.Holds
      (start ++ Log.records (es ++ (c.event? s.register.homes (s.answer c).1).toList)) := by
  cases s.outcome c with
  | kept same journal quiet =>
    rw [Call.event?_of_quiet _ quiet, Option.toList_none, List.append_nil, journal]
    exact holds
  | unlogged e hoped cause admitted same refused answer =>
    rw [answer, Call.event?_of_quiet _ (c.acknowledges_error _), Option.toList_none, List.append_nil]
    exact holds.write_error refused
  | recorded e admitted same logged =>
    rw [admitted.event?_eq, Option.toList_some, Log.records_concat, ← List.append_assoc]
    exact holds.write_ok logged

theorem Extends.answer {s : Store} {start : List UInt8} {es : List Event} (extends_ : s.Extends start es) (c : Call) :
    (s.answer c).2.Extends start (es ++ (c.event? s.register.homes (s.answer c).1).toList) := by
  refine ⟨holds_answer extends_.holds c, ?_⟩
  rcases (s.outcome c).quiet_or_applied with ⟨quiet, same⟩ | ⟨e, admitted, same⟩
  · rw [Call.event?_of_quiet _ quiet, Option.toList_none, List.append_nil]
    exact same.trans extends_.same
  · rw [admitted.event?_eq, Option.toList_some, Register.applyAll_append]
    exact same.trans (extends_.same.apply e)

theorem Extends.after {s : Store} {start : List UInt8} {es : List Event} (extends_ : s.Extends start es)
    (calls : List Call) : (s.after calls).Extends start (es ++ s.written calls) := by
  induction calls generalizing s es with
  | nil => exact (List.append_nil es).symm ▸ extends_
  | cons c calls ih =>
    rw [written, ← List.append_assoc]
    exact ih (extends_.answer c)

structure Faithful (s : Store) (es : List Event) : Prop where
  keeps : s.journal.Keeps es
  same : s.register.Same (Register.ofEvents es)

theorem faithful_iff_extends {s : Store} {es : List Event} : s.Faithful es ↔ s.Extends [] es :=
  ⟨fun faithful => ⟨faithful.keeps, faithful.same⟩, fun extends_ => ⟨extends_.holds, extends_.same⟩⟩

theorem faithful_open {d : Log.Disk} (steady : d.Steady) (blank : d.bytes = []) : (Store.open d).Faithful [] := by
  have opened := extends_open steady
  rw [blank] at opened
  exact faithful_iff_extends.mpr opened

theorem Faithful.after {s : Store} {es : List Event} (faithful : s.Faithful es) (calls : List Call) :
    (s.after calls).Faithful (es ++ s.written calls) :=
  faithful_iff_extends.mpr ((faithful_iff_extends.mp faithful).after calls)

theorem Faithful.reopen {s : Store} {es : List Event} (faithful : s.Faithful es) (short : ∀ e ∈ es, Log.Short e)
    {d : Log.Disk} (log : d.bytes = s.journal.disk.bytes) : (Store.open d).register.Same s.register := by
  rw [Store.open, log, faithful.keeps.bytes, Log.replay_records short]
  exact faithful.same.symm

theorem same_of_quiet {s : Store} {c : Call} (quiet : c.acknowledges (s.answer c).1 = false) :
    (s.answer c).2.register.Same s.register := by
  rcases (s.outcome c).quiet_or_applied with ⟨_, same⟩ | ⟨e, admitted, _⟩
  · exact same
  · rw [admitted.acknowledges] at quiet
    contradiction

theorem isSome_event? (s : Store) (c : Call) :
    (c.event? s.register.homes (s.answer c).1).isSome = c.acknowledges (s.answer c).1 := by
  rcases (s.outcome c).quiet_or_applied with ⟨quiet, _⟩ | ⟨e, admitted, _⟩
  · rw [Call.event?_of_quiet _ quiet, quiet, Option.isSome_none]
  · rw [admitted.event?_eq, admitted.acknowledges, Option.isSome_some]

/-- The log holds one record for each acknowledged call and no other, a call without a record keeps the state,
and opening the log gives back the state in memory, but for queues that hold nothing. -/
theorem log_replays {d : Log.Disk} {calls : List Call} (steady : d.Steady) (blank : d.bytes = [])
    (short : ∀ e ∈ (Store.open d).written calls, Log.Short e) :
    let s := (Store.open d).after calls
    s.journal.disk.bytes = Log.records ((Store.open d).written calls) ∧
      (∀ earlier c later, calls = earlier ++ c :: later →
        let before := (Store.open d).after earlier
        (c.event? before.register.homes (before.answer c).1).isSome = c.acknowledges (before.answer c).1 ∧
          (c.acknowledges (before.answer c).1 = false → (before.answer c).2.register.Same before.register)) ∧
      (Store.open s.journal.disk).register.Same s.register := by
  have faithful := (faithful_open steady blank).after calls
  rw [List.nil_append] at faithful
  refine ⟨faithful.keeps.bytes, ?_, faithful.reopen short rfl⟩
  intro earlier c later _
  exact ⟨isSome_event? _ c, same_of_quiet⟩

/-- A queue in use: a schedule, two rows of which one is claimed, edited and given up, and calls that fail. -/
def busyCalls : List Call :=
  let queue := Id.ofNat 7
  let w : Span := ⟨1700006400000, 1700092800000⟩
  let details : Details := ⟨"Ada", "limits", "room 1", .zero, ⟨0x3dcccccd⟩⟩
  [.replaceSchedule queue ⟨3, 30, ⟨[1, 2]⟩⟩ w,
    .publish queue [⟨Id.ofNat 1, queue, 0, 1700006400000, 30, none, details⟩,
      ⟨Id.ofNat 2, queue, 0, 1700006400000, 30, none, details⟩],
    .claim queue w 0 1 "ada@x.edu",
    .claim queue w 0 1 "bob@x.edu",
    .edit (Id.ofNat 1) "ada@x.edu" { details with name := "Ada L." },
    .replaceSchedule queue ⟨3, 60, ⟨[1]⟩⟩ w,
    .release (Id.ofNat 1) "ada@x.edu",
    .release (Id.ofNat 1) "ada@x.edu"]

theorem log_replays_busyCalls :
    ((Store.open {}).written busyCalls).length = 5 ∧
      ((Store.open {}).after busyCalls).journal.disk.bytes = Log.records ((Store.open {}).written busyCalls) ∧
        (Store.open ((Store.open {}).after busyCalls).journal.disk).register.Same
          ((Store.open {}).after busyCalls).register := by
  have short : ∀ e ∈ (Store.open {}).written busyCalls, Log.Short e := by decide +kernel
  have steady : Log.Disk.Steady {} := .inl ⟨rfl, rfl⟩
  obtain ⟨bytes, _, same⟩ := log_replays steady rfl short
  exact ⟨by decide +kernel, bytes, same⟩

def bookedRow : Slot := ⟨Id.ofNat 1, Id.ofNat 7, 0, 0, 30, some "ada@x.edu", ⟨"Ada", "limits", "room 1", .zero, .zero⟩⟩

def insertion : Call := .insert bookedRow ⟨⟨0, 1⟩, 1, none⟩

def sameTexts : Call := .edit bookedRow.id "ada@x.edu" bookedRow.details

/-- A call that leaves the state as it was may be logged all the same. -/
theorem unchanged_state_logged :
    let before := (Store.open {}).after [insertion]
    let after := (Store.open {}).after [insertion, sameTexts]
    (Store.open {}).Supplied [insertion, sameTexts] ∧
      (∀ e ∈ (Store.open {}).written [insertion, sameTexts], Log.Short e) ∧
      after.register.Same before.register ∧ after.journal.disk.bytes ≠ before.journal.disk.bytes := by
  intro before after
  let created : Event := .slotCreated bookedRow
  let edited : Event := .detailsEdited bookedRow.id bookedRow.queue bookedRow.details
  have one : (Store.open {}).written [insertion] = [created] := by decide +kernel
  have two : (Store.open {}).written [insertion, sameTexts] = [created, edited] := by decide +kernel
  have opened : (Store.open {}).Faithful [] := faithful_open (.inl ⟨rfl, rfl⟩) rfl
  have first : before.Faithful ([] ++ (Store.open {}).written [insertion]) := opened.after _
  have second : after.Faithful ([] ++ (Store.open {}).written [insertion, sameTexts]) := opened.after _
  rw [one, List.nil_append] at first
  rw [two, List.nil_append] at second
  have unchanged : (Register.ofEvents [created, edited]).Same (Register.ofEvents [created]) := by
    refine ⟨fun queue => ?_, rfl⟩
    change ((Register.ofEvents [created]).apply edited).content queue = _
    rw [Register.content_apply]
    split
    · rename_i own
      rw [own]
      decide +kernel
    · rfl
  have supplied : (Store.open {}).Supplied [insertion, sameTexts] :=
    supplied_of_fresh (Register.fresh_empty (by decide +kernel))
  refine ⟨supplied, ?_, second.same.trans (unchanged.trans first.same.symm), ?_⟩
  · rw [two]
    decide +kernel
  · -- Equal logs would replay to equal lists, but one has an event more.
    intro same
    rw [second.keeps.bytes, first.keeps.bytes] at same
    have replayed := congrArg Log.replay same
    rw [Log.replay_records (by decide +kernel), Log.replay_records (by decide +kernel)] at replayed
    exact absurd (congrArg List.length replayed) (by decide)

end Store

end Bookings
