import Bookings.Desk.Query
import Bookings.Proofs.Desk.Requests
import Bookings.Proofs.Store.Restart

namespace Bookings

namespace Register

variable {r t : Register}

def Housed (r : Register) : Prop := ∀ id home : Id, r.homes[id]? = some home → (r.queue? home).isSome = true

/-- The state as it was, or with one queue more, which holds nothing. -/
inductive Widens (r : Register) : Register → Prop
  | kept : Widens r r
  | added {queue : Id} (missing : r.queue? queue = none) : Widens r (r.addQueue queue)

theorem Widens.same (widens : r.Widens t) : t.Same r := by
  cases widens with
  | kept => exact Same.refl r
  | added missing => exact addQueue_same r _

theorem housed_empty : empty.Housed := by
  intro id home indexed
  rw [empty, Std.ExtTreeMap.getElem?_empty] at indexed
  contradiction

theorem Housed.widens (housed : r.Housed) (widens : r.Widens t) : t.Housed := by
  cases widens with
  | kept => exact housed
  | added missing =>
    intro id home indexed
    rw [queue?_addQueue]
    split
    · rfl
    · exact housed id home indexed

theorem Housed.apply (housed : r.Housed) (e : Event) : (r.apply e).Housed := by
  intro id home indexed
  rw [homes_apply, getElem?_foldl_insert] at indexed
  rw [queue?_apply]
  split
  · rfl
  · rename_i other
    split at indexed
    · cases indexed
      contradiction
    · exact housed id home indexed

theorem Housed.applyAll (housed : r.Housed) (es : List Event) : (r.applyAll es).Housed := by
  induction es generalizing r with
  | nil => exact housed
  | cons e es ih => exact ih (housed.apply e)

theorem schedules_eq (r : Register) (queue : Id) : r.schedules queue = (r.content queue).allSchedules := by
  rw [schedules, content]
  cases r.queue? queue <;> rfl

theorem homes_addQueue (r : Register) (queue : Id) : (r.addQueue queue).homes = r.homes := rfl

theorem Widens.resolve (widens : r.Widens t) (housed : r.Housed) (id : Id) : t.resolve id = r.resolve id := by
  cases widens with
  | kept => rfl
  | added missing =>
    rename_i queue
    unfold Register.resolve
    rw [homes_addQueue]
    cases indexed : r.homes[id]? with
    | none => rfl
    | some home =>
      have other : home ≠ queue := by
        rintro rfl
        have present := housed id _ indexed
        rw [missing] at present
        contradiction
      dsimp only
      rw [queue?_addQueue, if_neg other]

end Register

namespace Store

variable {s t : Store}

/-- The state is as it was but for a queue that holds nothing, and the journal but for what the write of a change that
was admitted has left when the log refused it. -/
structure Untouched (s t : Store) : Prop where
  widens : s.register.Widens t.register
  journal : t.journal = s.journal ∨ ∃ c e a cause, s.register.Admits c e a ∧
    s.journal.write e = (.error cause, t.journal)

theorem Untouched.refl (s : Store) : s.Untouched s := ⟨.kept, .inl rfl⟩

theorem Untouched.disk (untouched : s.Untouched t) (steady : s.journal.disk.Steady) :
    t.journal.disk = s.journal.disk := by
  rcases untouched.journal with same | ⟨_, _, _, _, _, refused⟩
  · rw [same]
  · exact Log.Journal.disk_of_write_error steady refused

theorem prepare_widens {c : Call} (prepared : s.prepare c = .ok t) :
    s.register.Widens t.register ∧ t.journal = s.journal := by
  unfold prepare at prepared
  split at prepared
  · cases prepared
    exact ⟨.kept, rfl⟩
  · rename_i queue home
    unfold Register.prepare at prepared
    split at prepared
    · rename_i register added
      cases prepared
      refine ⟨?_, rfl⟩
      by_cases present : (s.register.queue? queue).isSome = true
      · rw [if_pos present] at added
        cases added
        exact .kept
      · rw [if_neg present] at added
        split at added <;> cases added
        exact .added (Option.not_isSome_iff_eq_none.mp present)
    · cases prepared

theorem answer_cases (s : Store) (c : Call) :
    (c.acknowledges (s.answer c).1 = false ∧ s.Untouched (s.answer c).2) ∨
      c.acknowledges (s.answer c).1 = true ∧
        ∃ r e, s.register.Widens r ∧ (s.answer c).2.register = r.apply e := by
  unfold answer
  split
  · exact .inl ⟨c.acknowledges_error _, .refl s⟩
  · rename_i t prepared
    obtain ⟨widens, journal⟩ := prepare_widens prepared
    have decided := t.register.decides c
    generalize t.register.decide c = decision at decided ⊢
    cases decided with
    | answer quiet => exact .inl ⟨quiet, widens, .inl journal⟩
    | record admitted =>
      rename_i e reply
      have admits := admitted.of_same widens.same.symm
      rw [settle, commit]
      cases logged : t.journal.write e with
      | mk result after =>
        rw [journal] at logged
        cases result with
        | ok done => exact .inr ⟨admitted.acknowledges, t.register, e, widens, rfl⟩
        | error cause => exact .inl ⟨c.acknowledges_error _, widens, .inr ⟨c, e, _, cause, admits, logged⟩⟩

theorem untouched_of_quiet {faults : Faults} {c : Call} (quiet : c.acknowledges (s.answerWith faults c).1 = false) :
    s.Untouched (s.answerWith faults c).2 := by
  rcases s.answerWith_cases faults c with ⟨e, failed⟩ | ⟨_, kept⟩ | same
  · rw [failed]
    exact .refl s
  · rw [kept]
    exact .refl s
  · rw [same] at quiet ⊢
    rcases s.answer_cases c with ⟨_, untouched⟩ | ⟨acknowledged, _⟩
    · exact untouched
    · rw [quiet] at acknowledged
      contradiction

theorem Untouched.answer (untouched : s.Untouched t) (housed : s.register.Housed) {c : Call} (reads : c.reads = true) :
    (t.answer c).1 = (s.answer c).1 := by
  have same := untouched.widens.same
  cases c with
  | fetch id =>
    show (t.register.resolve id).map Prod.snd = (s.register.resolve id).map Prod.snd
    rw [untouched.widens.resolve housed]
  | within queue w =>
    show Except.ok (t.register.within queue w) = .ok (s.register.within queue w)
    rw [Register.within_eq, Register.within_eq, same.content]
  | atTimeslot queue w timeslot =>
    show Except.ok (t.register.atTimeslot queue w timeslot) = .ok (s.register.atTimeslot queue w timeslot)
    rw [Register.atTimeslot_eq, Register.atTimeslot_eq, same.content]
  | claimedBy queue w email =>
    show Except.ok (t.register.claimedBy queue w email) = .ok (s.register.claimedBy queue w email)
    rw [Register.claimedBy_eq, Register.claimedBy_eq, same.content]
  | scheduleFor queue weekday =>
    show Except.ok (t.register.schedule? queue weekday) = .ok (s.register.schedule? queue weekday)
    rw [same.schedule?]
  | allSchedules queue =>
    show Except.ok (t.register.schedules queue) = .ok (s.register.schedules queue)
    rw [Register.schedules_eq, Register.schedules_eq, same.content]
  | _ => contradiction

theorem Untouched.answerWith (untouched : s.Untouched t) (housed : s.register.Housed) (faults : Faults) {c : Call}
    (reads : c.reads = true) : (t.answerWith faults c).1 = (s.answerWith faults c).1 := by
  have same := untouched.answer housed reads
  unfold Store.answerWith
  cases faults c.capability with
  | none => exact same
  | some fault =>
    cases fault with
    | fails e => rfl
    | findsNothing => cases c <;> first | rfl | exact same
    | showsStudent student =>
      cases c with
      | fetch id => exact congrArg (Except.map fun slot => { slot with student }) same
      | _ => exact same

/-- What calls can make of any log, whatever becomes of it in between: it may be compacted or damaged, run full, take
late what was held back, or lose its writer. Opening what is left of it is a restart. -/
inductive Arises : Store → Prop
  | opened (d : Log.Disk) : Arises (Store.open d)
  | called {s : Store} (arises : Arises s) (c : Call) : Arises (s.answer c).2
  | worn {s : Store} (arises : Arises s) (journal : Log.Journal) : Arises { s with journal }

theorem Arises.housed (arises : s.Arises) : s.register.Housed := by
  induction arises with
  | opened => exact Register.housed_empty.applyAll _
  | called arises c ih =>
    rename_i s
    rcases s.answer_cases c with ⟨_, untouched⟩ | ⟨_, r, e, widens, applied⟩
    · exact ih.widens untouched.widens
    · rw [applied]
      exact (ih.widens widens).apply e
  | worn _ _ ih => exact ih

theorem Arises.answers {faults : Faults} {xs : List Exchange} (arises : s.Arises) (answers : s.Answers faults xs t) :
    t.Arises := by
  induction xs generalizing s with
  | nil =>
    cases answers
    exact arises
  | cons x xs ih =>
    obtain ⟨between, given, rest⟩ := answers
    refine ih ?_ rest
    -- A fault answers in place of the store, which stays as it is, or the store answers the call.
    rcases s.answerWith_cases faults x.call with ⟨e, failed⟩ | ⟨_, kept⟩ | same
    · obtain rfl : s = between := congrArg Prod.snd (failed.symm.trans given)
      exact arises
    · rw [given] at kept
      cases kept
      exact arises
    · have called := arises.called x.call
      rw [← same, given] at called
      exact called

def fill (s : Store) : Store :=
  { s with journal := { s.journal with disk := { s.journal.disk with room := some 0 } } }

end Store

/-- The request was refused, or it found nothing to do. -/
def Operation.failed : (op : Operation) → Except BookingError op.Result → Bool
  | _, .error e => !e.incomplete
  | .removeSignup .., .ok removal => removal = .alreadyVacated
  | .publishOpenSlots .., .ok count => count = 0
  | _, .ok _ => false

inductive Inquiry where
  | myAppointments (queue : Id) (weekday : UInt8) (caller : Caller)
  | appointmentsForDay (queue : Id) (weekday : UInt8) (caller : Caller)
  | scheduleForDay (queue : Id) (weekday : UInt8)
  | schedules (queue : Id)
  | timeslotAvailability (queue : Id) (weekday : UInt8)
deriving DecidableEq

@[reducible]
def Inquiry.Result : Inquiry → Type
  | .myAppointments .. => List Slot
  | .appointmentsForDay .. => List Slot
  | .scheduleForDay .. => Schedule
  | .schedules _ => List Schedule
  | .timeslotAvailability .. => List Availability

theorem Store.untouched_of_last {s t : Store} {faults : Faults} {told : List Exchange} {c : Call} {a : c.Answer}
    (answers : s.Answers faults (told ++ [⟨c, a⟩]) t) (quiet : Quiet told) (kept : c.acknowledges a = false) :
    s.Untouched t := by
  obtain ⟨⟨_, given, rfl⟩, _⟩ := answers.of_quiet quiet
  have refused : c.acknowledges (s.answerWith faults c).1 = false := by
    rw [given]
    exact kept
  have untouched := untouched_of_quiet refused
  rw [given] at untouched
  exact untouched

namespace Desk

variable {d : Desk} {s t : Store} {faults : Faults}

/-- All calls of a request but the last only read, unless it moved a row; and where a request failed, the last
acknowledged nothing. -/
theorem Performs.untouched {op : Operation} {told : List Exchange} {taken : List Id}
    {answer : Except BookingError op.Result} (performs : d.Performs op told taken answer)
    (answers : s.Answers faults told t) (failed : op.failed answer = true) : s.Untouched t := by
  cases performs with
  | refused quiet =>
    rw [answers.quiet quiet]
    exact .refl s
  | claimed quiet bounds found ahead known =>
    rename_i a
    cases a with
    | ok slot => cases failed
    | error e => exact Store.untouched_of_last answers quiet rfl
  | signed quiet bounds found ahead known texts =>
    rename_i a
    cases a with
    | ok slot => cases failed
    | error e => exact Store.untouched_of_last answers quiet rfl
  | revised story =>
    cases story with
    | refused quiet plain =>
      rw [answers.quiet quiet]
      exact .refl s
    | edited quiet texts =>
      rename_i a
      cases a with
      | ok done => cases failed
      | error e => exact Store.untouched_of_last answers quiet rfl
    | full quiet fetched queue => exact Store.untouched_of_last answers quiet rfl
    | moved quiet fetched replaces known found =>
      rename_i a
      cases a <;> cases failed
  | removed story =>
    cases story with
    | refused quiet plain =>
      rw [answers.quiet quiet]
      exact .refl s
    | vacated quiet =>
      rw [answers.quiet quiet]
      exact .refl s
    | released quiet fetched ahead =>
      rename_i a
      cases a with
      | ok gone =>
        cases gone with
        | true => cases failed
        | false => exact Store.untouched_of_last answers quiet rfl
      | error e => exact Store.untouched_of_last answers quiet rfl
  | replaced quiet bounds valid =>
    rename_i a
    cases a with
    | ok done => cases failed
    | error e => exact Store.untouched_of_last answers quiet rfl
  | published quiet bounds stored texts placed =>
    rename_i a
    cases a with
    | ok count =>
      have none : count = 0 := of_decide_eq_true failed
      subst none
      exact Store.untouched_of_last answers quiet rfl
    | error e => exact Store.untouched_of_last answers quiet rfl

def inquire (d : Desk) : (inquiry : Inquiry) → Action inquiry.Result
  | .myAppointments queue weekday caller => d.myAppointments queue weekday caller
  | .appointmentsForDay queue weekday caller => d.appointmentsForDay queue weekday caller
  | .scheduleForDay queue weekday => scheduleForDay queue weekday
  | .schedules queue => Desk.schedules queue
  | .timeslotAvailability queue weekday => d.timeslotAvailability queue weekday

theorem tells_inquire (d : Desk) (inquiry : Inquiry) :
    (d.inquire inquiry).Tells (fun told _ _ => Quiet told) [] [] := by
  have own : ∀ queue weekday caller,
      (d.myAppointments queue weekday caller).Tells (fun told _ _ => Quiet told) [] [] := by
    intro queue weekday caller
    unfold myAppointments
    refine Action.tells_check (fun _ _ => ?_) fun _ _ => quiet_nil
    refine Action.tells_check (fun w _ => ?_) fun _ _ => quiet_nil
    exact ⟨fun _ => quiet_nil.snoc rfl⟩
  have day : ∀ queue weekday, (scheduleForDay queue weekday).Tells (fun told _ _ => Quiet told) [] [] := by
    intro queue weekday
    have reads : ∀ a, Quiet ([] ++ [⟨.scheduleFor queue weekday, a⟩]) := fun a => quiet_nil.snoc rfl
    unfold scheduleForDay requireSchedule
    refine Action.tells_check (fun _ _ => Action.tells_call (fun found => ?_) fun e => reads _) fun _ _ => quiet_nil
    cases found with
    | none => exact Action.tells_fail (reads _)
    | some schedule => exact Action.tells_pure (reads _)
  cases inquiry with
  | myAppointments queue weekday caller => exact own queue weekday caller
  | appointmentsForDay queue weekday caller =>
    show (d.appointmentsForDay queue weekday caller).Tells _ [] []
    unfold appointmentsForDay
    split
    · refine Action.tells_check (fun w _ => ?_) fun _ _ => quiet_nil
      exact ⟨fun _ => quiet_nil.snoc rfl⟩
    · exact own queue weekday caller
  | scheduleForDay queue weekday => exact day queue weekday
  | schedules queue => exact ⟨fun _ => quiet_nil.snoc rfl⟩
  | timeslotAvailability queue weekday =>
    refine Action.tells_bind ((day queue weekday).mono fun told taken answer quiet => ?_)
    cases answer with
    | error e => exact quiet
    | ok schedule =>
      have reads := fun w a => quiet.snoc (x := ⟨.within queue w, a⟩) rfl
      refine Action.tells_check (fun w _ => ?_) fun _ _ => quiet
      exact Action.tells_call (fun rows => Action.tells_pure (reads w _)) fun e => reads w _

end Desk

namespace Service

/-- A request that is refused, or that finds nothing to do, leaves the state as it was but for a queue that holds
nothing, which no read tells from none. If it was the log that refused a change, a part of its record may be left there,
or be held back until the disk takes it, and where only the sync failed all of it is on disk; a disk that takes all or
nothing stays as it was. A request that only reads leaves everything as it was, whatever it is answered. -/
theorem failures_leave_memory_alone {ids : Nat → Id} {zone : Zone} {s : Service} (arises : s.store.Arises) :
    (∀ v : Visit, v.operation.failed (s.reply ids zone v) = true →
      let t := (s.visit ids zone v).store
      s.store.register.Widens t.register ∧ t.register.Same s.store.register ∧
        (∀ faults c, c.reads = true → (t.answerWith faults c).1 = (s.store.answerWith faults c).1) ∧
        (t.journal = s.store.journal ∨ ∃ c e a cause, s.store.register.Admits c e a ∧
          s.store.journal.write e = (.error cause, t.journal) ∧ s.store.journal.Leaves e t.journal cause ∧
            ∃ out, out <+: s.store.journal.held ++ Log.record e ∧
              t.journal.disk.bytes = s.store.journal.disk.bytes ++ out) ∧
        (s.store.journal.disk.Steady → t.journal.disk = s.store.journal.disk)) ∧
      ∀ (now : Instant) (inquiry : Inquiry) (faults : Faults),
        ((ExceptT.run ((Desk.mk zone now).inquire inquiry)).run (world ids faults) s).2.store = s.store := by
  constructor
  · intro v failed t
    obtain ⟨told, answers, performs⟩ := told_visit ((Desk.mk zone v.now).tells_perform v.operation) s
    have untouched : s.store.Untouched t := performs.untouched answers failed
    have same := untouched.widens.same
    refine ⟨untouched.widens, same, fun faults c => untouched.answerWith arises.housed faults, ?_, untouched.disk⟩
    rcases untouched.journal with kept | ⟨c, e, a, cause, admits, refused⟩
    · exact .inl kept
    · have leaves := Log.Journal.write_error refused
      exact .inr ⟨c, e, a, cause, admits, refused, leaves, leaves.bytes⟩
  · intro now inquiry faults
    obtain ⟨told, answers, quiet⟩ := ((Desk.mk zone now).tells_inquire inquiry).run.run ids faults s
    exact answers.quiet quiet

theorem arises_visits {ids : Nat → Id} {zone : Zone} (disk : Log.Disk) (vs : List Visit) :
    ((start disk).visits ids zone vs).store.Arises := by
  have kept : ∀ s : Service, s.store.Arises → (s.visits ids zone vs).store.Arises := by
    induction vs with
    | nil => exact fun _ arises => arises
    | cons v vs ih =>
      intro s arises
      obtain ⟨told, answers, _⟩ := told_visit ((Desk.mk zone v.now).tells_perform v.operation) s
      exact ih _ (arises.answers answers)
  exact kept (start disk) (.opened disk)

def newSchedule : Visit :=
  let capacities : Capacities := ⟨['1'].filterMap Capacities.digit?⟩
  ⟨1700000240000, .updateSchedule (Id.ofNat 8) 3 30 capacities ⟨"staff@x.edu", true⟩, noFaults⟩

theorem failures_leave_memory_alone_newSchedule :
    let ids := fun n => Id.ofNat (n + 1)
    let before := ((start {}).visits ids Zone.utc wednesday).store
    let disk := { before.journal.disk with room := some 20 }
    let s : Service := ⟨{ before with journal := { before.journal with disk } }, 4⟩
    let t := (s.visit ids Zone.utc newSchedule).store
    s.store.register.queue? (Id.ofNat 8) = none ∧ t.register.queue? (Id.ofNat 8) = some .empty ∧
      s.store.register.Widens t.register ∧
      (t.answerWith noFaults (.allSchedules (Id.ofNat 8))).1 =
        (s.store.answerWith noFaults (.allSchedules (Id.ofNat 8))).1 ∧
      t.journal.disk.bytes.length = s.store.journal.disk.bytes.length + 20 := by
  intro ids before disk s t
  have failed : newSchedule.operation.failed (s.reply ids Zone.utc newSchedule) = true := by decide +kernel
  have arises : s.store.Arises := (arises_visits {} wednesday).worn _
  obtain ⟨widens, _, reads, _⟩ := (failures_leave_memory_alone arises).1 newSchedule failed
  exact ⟨by decide +kernel, by decide +kernel, widens, reads noFaults _ rfl, by decide +kernel⟩

/-- Where the sync fails, a request is refused whose schedule is in the log, and a restart finds it. Where the disk was
full, the refused record counts towards the next compaction, and the next one that the disk takes brings it along. -/
theorem refused_schedule_is_replayed :
    let ids := fun n => Id.ofNat (n + 1)
    let s := start { syncs := false }
    let t := (s.visit ids Zone.utc newSchedule).store
    let full := ((start { room := some 0 }).visit ids Zone.utc newSchedule).store
    let later : Store := { full with journal := { full.journal with disk := { full.journal.disk with room := none } } }
    newSchedule.operation.failed (s.reply ids Zone.utc newSchedule) = true ∧
      s.store.journal.disk.bytes = [] ∧ t.journal.disk.bytes ≠ [] ∧
      (t.register.schedule? (Id.ofNat 8) 3).isSome = false ∧
      ((Store.open t.journal.disk).register.schedule? (Id.ofNat 8) 3).isSome = true ∧
      newSchedule.operation.failed ((start { room := some 0 }).reply ids Zone.utc newSchedule) = true ∧
      full.journal.disk.bytes = [] ∧ full.journal.appends = 1 ∧
      ((Store.open (later.answer Store.replacement).2.journal.disk).register.schedule? (Id.ofNat 8) 3).isSome = true := by
  intro ids s t full later
  exact ⟨by decide +kernel, by decide +kernel, by decide +kernel, by decide +kernel, by decide +kernel,
    by decide +kernel, by decide +kernel, by decide +kernel, by decide +kernel⟩

end Service

end Bookings
