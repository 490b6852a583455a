import Bookings.Proofs.Desk.Ahead
import Bookings.Proofs.Desk.Atomicity
import Bookings.Proofs.Desk.Reached

namespace Bookings

def StoreError.Internal (e : StoreError) : Prop := (BookingError.ofStore e).status = .internal

theorem Desk.status_window {d : Desk} {weekday : UInt8} {e : BookingError} (refused : d.window weekday = .error e) :
    e.status = .badRequest := by
  unfold Desk.window at refused
  cases checked : Rules.weekday weekday with
  | error cause =>
    rw [checked] at refused
    cases refused
    exact Rules.status_weekday checked
  | ok done =>
    rw [checked] at refused
    cases bounds : weekdayBounds weekday d.now d.zone with
    | none =>
      rw [bounds] at refused
      cases refused
      rfl
    | some w =>
      rw [bounds] at refused
      cases refused

theorem Register.resolve_eq_error {r : Register} {id : Id} {e : StoreError} (missing : r.resolve id = .error e) :
    ∃ other, e = .notFound other := by
  unfold Register.resolve at missing
  split at missing
  · cases missing
    exact ⟨_, rfl⟩
  · split at missing
    · cases missing
      exact ⟨_, rfl⟩
    · split at missing <;> cases missing
      exact ⟨_, rfl⟩

def Plain {α : Type} (a : Except StoreError α) : Prop := ∀ e, a = .error e → ¬e.Internal

theorem plain_ok {α : Type} (a : α) : Plain (.ok a : Except StoreError α) := nofun

theorem plain_error {α : Type} {e : StoreError} (told : ¬e.Internal) : Plain (.error e : Except StoreError α) := by
  intro cause same
  cases same
  exact told

def Decision.Plain {α : Type} : Decision α → Prop
  | .answer a => Bookings.Plain a
  | .record _ reply => ∀ r, Bookings.Plain (reply r)

/-- The queue that a call adds rows to would come to hold too many. -/
def Register.Overfilled (r : Register) (c : Call) : Prop :=
  ∃ queue ∈ c.home?, c.brought ≠ [] ∧ maxSlotsPerQueue < (r.rows queue).length + c.brought.length

instance (r : Register) (c : Call) : Decidable (r.Overfilled c) := inferInstanceAs (Decidable (∃ queue ∈ c.home?, _))

namespace Register

variable {r : Register}

theorem plain_resolve {α : Type} {id : Id} {e : StoreError} (missing : r.resolve id = .error e) :
    Plain (.error e : Except StoreError α) := by
  obtain ⟨other, rfl⟩ := resolve_eq_error missing
  exact plain_error nofun

theorem plain_insert {slot : Slot} {guard : Guard} (spare : ¬r.Overfilled (.insert slot guard)) :
    (r.decideInsert slot guard).Plain := by
  unfold decideInsert
  split
  · rename_i crowded
    rw [slotCount_eq] at crowded
    exact absurd ⟨slot.queue, rfl, List.cons_ne_nil _ _, Nat.lt_succ_of_le crowded⟩ spare
  · split
    · exact plain_error nofun
    · split
      · exact plain_error nofun
      · exact fun _ => plain_ok _

theorem plain_publish {queue : Id} {slots : List Slot} (spare : ¬r.Overfilled (.publish queue slots)) :
    (r.decidePublish queue slots).Plain := by
  unfold decidePublish
  split
  · exact plain_ok 0
  · rename_i filled
    split
    · rename_i crowded
      rw [slotCount_eq] at crowded
      refine absurd ⟨queue, ?_, ?_, crowded⟩ spare
      · rw [Call.home?, if_neg filled, Option.mem_def]
      · exact fun none => filled (List.isEmpty_iff.mpr none)
    · exact fun _ => plain_ok _

theorem plain_edit (id : Id) (email : String) (details : Details) : (r.decideEdit id email details).Plain := by
  unfold decideEdit
  split
  · exact plain_resolve ‹_›
  · split
    · exact plain_error nofun
    · split
      · exact fun _ => plain_ok _
      · exact plain_error nofun

theorem plain_release (id : Id) (email : String) : (r.decideRelease id email).Plain := by
  unfold decideRelease
  split
  · exact plain_resolve ‹_›
  · split
    · exact plain_ok false
    · split
      · exact fun _ => plain_ok _
      · exact plain_error nofun

theorem plain_claim (queue : Id) (w : Span) (timeslot : UInt32) (capacity : Nat) (email : String) :
    (r.decideClaim queue w timeslot capacity email).Plain := by
  unfold decideClaim
  split
  · exact plain_error nofun
  · dsimp only
    split
    · exact plain_error nofun
    · split
      · exact plain_error nofun
      · intro after
        show Plain (after.slotIn queue _)
        unfold slotIn
        split
        · exact plain_ok _
        · exact plain_error nofun

theorem plain_decide {c : Call} (spare : ¬r.Overfilled c) : (r.decide c).Plain := by
  cases c with
  | fetch id =>
    show Plain ((r.resolve id).map Prod.snd)
    cases found : r.resolve id with
    | error e => exact plain_resolve found
    | ok row => exact plain_ok row.2
  | within queue w => exact plain_ok _
  | atTimeslot queue w timeslot => exact plain_ok _
  | claimedBy queue w email => exact plain_ok _
  | scheduleFor queue weekday => exact plain_ok _
  | allSchedules queue => exact plain_ok _
  | replaceSchedule queue schedule w =>
    show (r.decideReplaceSchedule queue schedule w).Plain
    unfold decideReplaceSchedule
    dsimp only
    split
    · exact plain_error nofun
    · exact fun _ => plain_ok ()
  | insert slot guard => exact plain_insert spare
  | publish queue slots => exact plain_publish spare
  | edit id email details => exact plain_edit id email details
  | release id email => exact plain_release id email
  | claim queue w timeslot capacity email => exact plain_claim queue w timeslot capacity email

theorem Overfilled.of_same {s : Register} {c : Call} (overfilled : s.Overfilled c) (same : s.Same r) :
    r.Overfilled c := by
  obtain ⟨queue, home, filled, crowded⟩ := overfilled
  rw [same.rows] at crowded
  exact ⟨queue, home, filled, crowded⟩

end Register

namespace Store

variable {s : Store}

theorem plain_settle {α : Type} (working : s.journal.Working) {decision : Decision α} (told : decision.Plain) :
    Plain (s.settle decision).1 := by
  obtain ⟨register, journal⟩ := s
  cases decision with
  | answer a => exact told
  | record e reply =>
    obtain ⟨k, done, _⟩ := working.write e
    change journal.write e = (.ok (), k) at done
    rw [settle, commit, done]
    exact told _

theorem plain_answer (working : s.journal.Working) (few : s.register.queueCount < maxQueues) {c : Call}
    (spare : ¬s.register.Overfilled c) : Plain (s.answer c).1 := by
  unfold answer
  split
  · rename_i e refused
    unfold prepare at refused
    split at refused
    · cases refused
    · rename_i queue home
      unfold Register.prepare at refused
      by_cases present : (s.register.queue? queue).isSome = true
      · rw [if_pos present] at refused
        cases refused
      · rw [if_neg present, if_neg (Nat.not_le.mpr few)] at refused
        cases refused
  · rename_i t prepared
    obtain ⟨same, journal⟩ := prepare_eq_ok prepared
    exact plain_settle (journal ▸ working) (Register.plain_decide fun crowded => spare (crowded.of_same same))

end Store

def Faulted (told : List Exchange) : Prop :=
  (∃ x ∈ told, ¬Plain x.answer) ∨ ∃ slot guard created id email e,
    ⟨.insert slot guard, .ok created⟩ ∈ told ∧ ⟨.release id email, .error e⟩ ∈ told

def Founded {α : Type} (told : List Exchange) (answer : Except BookingError α) : Prop :=
  ∀ e, answer = .error e → e.status = .internal → Faulted told

theorem founded_ok {α : Type} (told : List Exchange) (a : α) : Founded told (.ok a : Except BookingError α) := nofun

theorem founded_error {α : Type} {told : List Exchange} {e : BookingError} (plain : e.status ≠ .internal) :
    Founded told (.error e : Except BookingError α) := by
  intro cause same internal
  cases same
  exact absurd internal plain

theorem founded_refusal {α : Type} {told : List Exchange} {c : Call} {e : StoreError} :
    Founded (told ++ [⟨c, .error e⟩]) (.error (.ofStore e) : Except BookingError α) := by
  intro cause same internal
  cases same
  exact .inl ⟨_, List.mem_append_right _ (List.mem_singleton.mpr rfl), fun plain => plain e rfl internal⟩

structure Plan.Founded (p : Plan Response) : Prop where
  tells : p.Tells (fun told _ response => response.status = 500 → Faulted told) [] []

namespace Action

variable {α β : Type}

structure Founded (x : Action α) : Prop where
  tells : ∀ told taken, x.Tells (fun told _ answer => Bookings.Founded told answer) told taken

theorem founded_pure (b : β) : (pure b : Action β).Founded := ⟨fun _ _ => tells_pure (founded_ok _ b)⟩

theorem founded_fail {e : BookingError} (plain : e.status ≠ .internal) : (fail e : Action β).Founded :=
  ⟨fun _ _ => tells_fail (founded_error plain)⟩

theorem founded_bind {x : Action α} {f : α → Action β} (first : x.Founded) (next : ∀ a, (f a).Founded) :
    (x >>= f).Founded := by
  refine ⟨fun told taken => tells_bind ((first.tells told taken).mono ?_)⟩
  intro told taken answer founded
  cases answer with
  | ok a => exact (next a).tells told taken
  | error e =>
    intro cause same internal
    cases same
    exact founded e rfl internal

theorem founded_check {r : Except BookingError α} {status : Status} (plain : status ≠ .internal)
    (refused : ∀ e, r = .error e → e.status = status) : (check r).Founded := by
  cases r with
  | ok a => exact ⟨fun told taken => ⟨founded_ok told a⟩⟩
  | error e => exact ⟨fun told taken => ⟨founded_error (refused e rfl ▸ plain)⟩⟩

theorem founded_call (c : Call) : (call c).Founded := by
  refine ⟨fun told taken => ⟨fun a => ?_⟩⟩
  cases a with
  | ok a => exact founded_ok _ a
  | error e => exact founded_refusal

theorem founded_newId : newId.Founded := ⟨fun _ _ => ⟨fun id => founded_ok _ id⟩⟩

theorem founded_mintEach {γ : Type} (f : γ → Id → α) (items : List γ) : (mintEach f items).Founded := by
  refine ⟨fun told taken => ⟨?_⟩⟩
  rw [mintEach, ExceptT.run_mk, Plan.tells_bind]
  exact Plan.tells_mintEach fun ids enough => founded_ok _ _

end Action

namespace Desk

open Bookings.Action

theorem founded_window (d : Desk) (weekday : UInt8) : (check (d.window weekday)).Founded :=
  founded_check (by decide) fun _ => status_window

theorem founded_requireSchedule (queue : Id) (weekday : UInt8) : (requireSchedule queue weekday).Founded := by
  refine founded_bind (founded_call _) fun found => ?_
  cases found with
  | none => exact founded_fail nofun
  | some schedule => exact founded_pure schedule

theorem founded_timeslotCapacity (queue : Id) (weekday : UInt8) (timeslot : UInt32) :
    (timeslotCapacity queue weekday timeslot).Founded := by
  refine founded_bind (founded_requireSchedule queue weekday) fun schedule => ?_
  cases schedule.capacityAt timeslot with
  | none => exact founded_fail nofun
  | some capacity => exact founded_pure (schedule, capacity)

theorem founded_ensureRoom (queue : Id) (w : Span) (timeslot : UInt32) (capacity : Nat) :
    (ensureRoom queue w timeslot capacity).Founded := by
  refine founded_bind (founded_call _) fun rows => ?_
  split
  · exact founded_pure ()
  · exact founded_fail nofun

theorem founded_claimTimeslot (d : Desk) (queue : Id) (weekday : UInt8) (timeslot : UInt32) (caller : Caller) :
    (d.claimTimeslot queue weekday timeslot caller).Founded := by
  refine founded_bind (founded_check (by decide) fun _ => Rules.status_caller) fun _ => ?_
  refine founded_bind (d.founded_window weekday) fun w => ?_
  refine founded_bind (founded_timeslotCapacity queue weekday timeslot) fun (schedule, capacity) => ?_
  refine founded_bind (founded_check (by decide) fun _ => Rules.status_notStarted) fun _ => ?_
  exact founded_call _

theorem founded_signup (d : Desk) (queue : Id) (weekday : UInt8) (timeslot : UInt32) (draft : Draft) (caller : Caller) :
    (d.signup queue weekday timeslot draft caller).Founded := by
  refine founded_bind (founded_check (by decide) fun _ => Rules.status_caller) fun _ => ?_
  refine founded_bind (founded_check (by decide) fun _ => Rules.status_details) fun details => ?_
  refine founded_bind (d.founded_window weekday) fun w => ?_
  refine founded_bind (founded_timeslotCapacity queue weekday timeslot) fun (schedule, capacity) => ?_
  refine founded_bind (founded_ensureRoom queue w timeslot capacity) fun _ => ?_
  refine founded_bind (founded_call _) fun rows => ?_
  cases rows with
  | cons existing rest => exact founded_fail nofun
  | nil =>
    refine founded_bind (founded_check (by decide) fun _ => Rules.status_notStarted) fun _ => ?_
    exact founded_bind founded_newId fun id => founded_call _

theorem founded_move (d : Desk) (appointment : Id) (current : Slot) (timeslot : UInt32) (details : Details)
    (caller : Caller) : (d.move appointment current timeslot details caller).Founded := by
  unfold move
  dsimp only
  split
  · refine founded_bind (founded_timeslotCapacity _ _ _) fun (schedule, capacity) => ?_
    dsimp only
    split
    · exact founded_fail nofun
    · refine founded_bind (founded_check (by decide) fun _ => Rules.status_notStarted) fun _ => ?_
      refine founded_bind (founded_ensureRoom _ _ _ _) fun _ => founded_bind founded_newId fun id => ?_
      refine ⟨fun told taken => tells_call (fun created => tells_attempt fun a => ?_) fun e => founded_refusal⟩
      cases a with
      | ok gone => exact tells_pure (founded_ok _ created)
      | error cause =>
        refine tells_fail fun e _ _ => .inr ⟨_, _, created, appointment, caller.email, cause, ?_, ?_⟩
        · exact List.mem_append_left _ (List.mem_append_right _ (List.mem_singleton.mpr rfl))
        · exact List.mem_append_right _ (List.mem_singleton.mpr rfl)
  · exact founded_fail nofun

theorem founded_updateAppointment (d : Desk) (appointment : Id) (draft : Draft) (caller : Caller) :
    (d.updateAppointment appointment draft caller).Founded := by
  refine founded_bind (founded_check (by decide) fun _ => Rules.status_caller) fun _ => ?_
  refine founded_bind (founded_call _) fun current => ?_
  split
  · exact founded_fail nofun
  · refine founded_bind (founded_check (by decide) fun _ => Rules.status_owner) fun _ => ?_
    refine founded_bind (founded_check (by decide) fun _ => Rules.status_details) fun details => ?_
    dsimp only
    split
    · exact founded_bind (founded_call _) fun _ => founded_pure Update.edited
    · exact founded_bind (d.founded_move _ _ _ _ _) fun slot => founded_pure (Update.moved slot)

theorem founded_removeSignup (d : Desk) (appointment : Id) (caller : Caller) :
    (d.removeSignup appointment caller).Founded := by
  refine founded_bind (founded_check (by decide) fun _ => Rules.status_caller) fun _ => ?_
  refine founded_bind (founded_call _) fun current => ?_
  split
  · exact founded_pure Removal.alreadyVacated
  · refine founded_bind (founded_check (by decide) fun _ => Rules.status_owner) fun _ => ?_
    refine founded_bind (founded_check (by decide) fun _ => Rules.status_cancellable) fun _ => ?_
    refine founded_bind (founded_call _) fun gone => ?_
    split
    · exact founded_pure Removal.removed
    · exact founded_pure Removal.alreadyVacated

theorem founded_updateSchedule (d : Desk) (queue : Id) (weekday : UInt8) (duration : UInt32) (capacities : Capacities)
    (caller : Caller) : (d.updateSchedule queue weekday duration capacities caller).Founded := by
  have invalid : ∀ e, (Schedule.validate ⟨weekday, duration, capacities⟩).mapError BookingError.invalidSchedule =
      .error e → e.status = .badRequest := by
    intro e refused
    cases checked : Schedule.validate ⟨weekday, duration, capacities⟩ with
    | ok done =>
      rw [checked] at refused
      cases refused
    | error cause =>
      rw [checked] at refused
      cases refused
      rfl
  refine founded_bind (founded_check (by decide) fun _ => Rules.status_admin) fun _ => ?_
  refine founded_bind (d.founded_window weekday) fun w => ?_
  refine founded_bind (founded_check (by decide) invalid) fun _ => founded_bind (founded_call _) fun rows => ?_
  split
  · exact founded_fail nofun
  · exact founded_bind (founded_call _) fun _ => founded_pure _

theorem founded_publishOpenSlots (d : Desk) (queue : Id) (weekday : UInt8) (template : Draft) (caller : Caller) :
    (d.publishOpenSlots queue weekday template caller).Founded := by
  refine founded_bind (founded_check (by decide) fun _ => Rules.status_admin) fun _ => ?_
  refine founded_bind (founded_check (by decide) fun _ => Rules.status_details) fun details => ?_
  refine founded_bind (d.founded_window weekday) fun w => ?_
  refine founded_bind (founded_requireSchedule queue weekday) fun schedule => ?_
  refine founded_bind (founded_call _) fun rows => ?_
  exact founded_bind (founded_mintEach _ _) fun slots => founded_call _

theorem founded_inquire (d : Desk) (inquiry : Inquiry) : (d.inquire inquiry).Founded := by
  have own : ∀ queue weekday caller, (d.myAppointments queue weekday caller).Founded := by
    intro queue weekday caller
    refine founded_bind (founded_check (by decide) fun _ => Rules.status_caller) fun _ => ?_
    exact founded_bind (d.founded_window weekday) fun w => founded_call _
  have day : ∀ queue weekday, (scheduleForDay queue weekday).Founded := by
    intro queue weekday
    refine founded_bind (founded_check (by decide) fun _ => Rules.status_weekday) fun _ => ?_
    exact founded_requireSchedule queue weekday
  cases inquiry with
  | myAppointments queue weekday caller => exact own queue weekday caller
  | appointmentsForDay queue weekday caller =>
    show (d.appointmentsForDay queue weekday caller).Founded
    unfold appointmentsForDay
    split
    · exact founded_bind (d.founded_window weekday) fun w => founded_call _
    · exact own queue weekday caller
  | scheduleForDay queue weekday => exact day queue weekday
  | schedules queue => exact founded_call _
  | timeslotAvailability queue weekday =>
    refine founded_bind (day queue weekday) fun schedule => founded_bind (d.founded_window weekday) fun w => ?_
    exact founded_bind (founded_call _) fun rows => founded_pure _

theorem founded_submitSchedule (d : Desk) (queue : Id) (weekday : UInt8) (caller : Caller) (body : ScheduleBody) :
    (d.submitSchedule queue weekday caller body).Founded := by
  have malformed : ∀ e, (Capacities.parse body.capacities).mapError BookingError.invalidSchedule = .error e →
      e.status = .badRequest := by
    intro e refused
    cases read : Capacities.parse body.capacities <;> rw [read] at refused <;> cases refused
    rfl
  unfold submitSchedule
  exact founded_bind (founded_check (by decide) malformed) fun capacities =>
    d.founded_updateSchedule queue weekday body.duration capacities caller

theorem founded_respond {α : Type} {a : Action α} {present : α → Response} (founded : a.Founded)
    (shown : ∀ r, (present r).status ≠ 500) : (respond a present).Founded := by
  refine ⟨tells_respond ((founded.tells [] []).mono fun told taken answer holds => ?_)⟩
  cases answer with
  | ok r => exact fun failed => absurd failed (shown r)
  | error e =>
    intro failed
    refine holds e rfl ?_
    change e.status.code = 500 at failed
    cases status : e.status <;> rw [status] at failed <;> first | rfl | contradiction

theorem founded_dispatch (d : Desk) (r : Request) : (d.dispatch r).Founded := by
  have ok : Status.ok.code ≠ 500 := by decide
  have created : Status.created.code ≠ 500 := by decide
  have noContent : Status.noContent.code ≠ 500 := by decide
  cases r with
  | appointmentsForDay queue weekday caller =>
    exact founded_respond (d.founded_inquire (.appointmentsForDay queue weekday caller)) fun _ => ok
  | myAppointments queue weekday caller =>
    exact founded_respond (d.founded_inquire (.myAppointments queue weekday caller)) fun _ => ok
  | schedule queue weekday =>
    cases weekday with
    | some weekday => exact founded_respond (d.founded_inquire (.scheduleForDay queue weekday)) fun _ => ok
    | none => exact founded_respond (d.founded_inquire (.schedules queue)) fun _ => ok
  | timeslotAvailability queue weekday =>
    exact founded_respond (d.founded_inquire (.timeslotAvailability queue weekday)) fun _ => ok
  | claimTimeslot queue weekday timeslot caller =>
    exact founded_respond (d.founded_claimTimeslot queue weekday timeslot caller) fun _ => created
  | signup queue weekday timeslot caller appointment =>
    exact founded_respond (d.founded_signup queue weekday timeslot appointment caller) fun _ => created
  | updateAppointment id caller appointment =>
    refine founded_respond (d.founded_updateAppointment id appointment caller) fun update => ?_
    cases update with
    | edited => exact noContent
    | moved slot => exact created
  | removeSignup id caller =>
    refine founded_respond (d.founded_removeSignup id caller) fun removal => ?_
    cases removal with
    | removed => exact noContent
    | alreadyVacated => exact ok
  | updateSchedule queue weekday caller body =>
    exact founded_respond (d.founded_submitSchedule queue weekday caller body) fun _ => noContent
  | publishOpenSlots queue weekday caller template =>
    exact founded_respond (d.founded_publishOpenSlots queue weekday template caller) fun _ => created

theorem founded_handleLine (d : Desk) (explain : String → String) (line : String) :
    (d.handleLine explain line).Founded := by
  unfold handleLine
  split
  · exact d.founded_dispatch _
  · exact ⟨nofun⟩

/-- How the calls of a request go on: all read but the last, unless a row was moved. -/
inductive Course : List Exchange → List Id → Prop
  | quiet {told : List Exchange} {taken : List Id} (quiet : Quiet told) : Course told taken
  | wrote {told : List Exchange} {taken : List Id} (quiet : Quiet told) (x : Exchange) : Course (told ++ [x]) taken
  | moved {told : List Exchange} {current new created : Slot} {guard : Guard} {appointment : Id} {email : String}
      {a : Except StoreError Bool} (quiet : Quiet told) (fetched : ⟨.fetch appointment, .ok current⟩ ∈ told)
      (owned : current.isClaimedBy email = true) (queue : new.queue = current.queue) :
      Course (told ++ [⟨.insert new guard, .ok created⟩, ⟨.release appointment email, a⟩]) [new.id]

theorem Performs.course {d : Desk} {op : Operation} {told : List Exchange} {taken : List Id}
    {answer : Except BookingError op.Result} (performs : d.Performs op told taken answer) : Course told taken := by
  cases performs with
  | refused quiet => exact .quiet quiet
  | claimed quiet => exact .wrote quiet _
  | signed quiet => exact .wrote quiet _
  | revised story =>
    cases story with
    | refused quiet => exact .quiet quiet
    | edited quiet => exact .wrote quiet _
    | full quiet => exact .wrote quiet _
    | moved quiet fetched replaces => exact .moved quiet fetched replaces.owned replaces.queue
  | removed story =>
    cases story with
    | refused quiet => exact .quiet quiet
    | vacated quiet => exact .quiet quiet
    | released quiet => exact .wrote quiet _
  | replaced quiet => exact .wrote quiet _
  | published quiet => exact .wrote quiet _

theorem course_handleLine (d : Desk) (explain : String → String) (line : String) :
    (d.handleLine explain line).Tells (fun told taken _ => Course told taken) [] [] := by
  unfold handleLine
  split
  · rename_i r _
    have carried := d.carried r
    generalize d.dispatch r = p at carried
    cases carried with
    | inquired inquiry =>
      exact tells_respond ((d.tells_inquire inquiry).mono fun _ _ _ quiet => .quiet quiet)
    | refused => exact .quiet quiet_nil
    | performed op caller => exact tells_respond ((d.tells_perform op).mono fun _ _ _ performs => performs.course)
  · exact .quiet quiet_nil

end Desk

namespace Store

variable {s t : Store}

theorem answer_release_beside {between : Store} {id : Id} {current new created : Slot} {guard : Guard} {email : String}
    (working : s.journal.Working) (formed : s.register.WellFormed) (fresh : s.register.Fresh [new.id])
    (found : s.register.resolve id = .ok (current.queue, current)) (owned : current.isClaimedBy email = true)
    (queue : new.queue = current.queue) (inserted : s.answer (.insert new guard) = (.ok created, between)) :
    (between.answer (.release id email)).1 = .ok true := by
  obtain ⟨member, _⟩ := Queue.mem_of_slot? (Register.resolve_eq_ok found).2
  rw [← queue] at member
  have held : current.student = some email := eq_of_beq owned
  have asked : s.answerWith Service.noFaults (.insert new guard) = (.ok created, between) := inserted
  rcases insert_cases (Register.isSome_queue? member) asked with ⟨e, refused, _⟩ | ⟨_, grown⟩
  · contradiction
  · have still := Register.resolve_slotCreated formed.orderly fresh found
    rw [← grown] at still
    have ready := working_of_outcome working (outcome_of_answerWith asked)
    obtain ⟨k, _, released⟩ := answer_release ready still held
    rw [released]

section

variable {told : List Exchange} {taken : List Id} (working : s.journal.Working) (formed : s.register.WellFormed)
  (fresh : s.register.Fresh taken)

include working formed fresh in
theorem released_of_course {slot created : Slot} {guard : Guard} {id : Id} {email : String} {a : Except StoreError Bool}
    (course : Desk.Course told taken) (answers : s.Answers Service.noFaults told t)
    (inserted : ⟨.insert slot guard, .ok created⟩ ∈ told) (released : ⟨.release id email, a⟩ ∈ told) : a = .ok true := by
  cases course with
  | quiet quiet => exact absurd inserted (quiet.not_mem rfl)
  | wrote quiet x =>
    -- Only one of the two calls can be the last, and the others read.
    have first := List.mem_singleton.mp ((quiet.mem_append rfl).mp inserted)
    cases first.trans (List.mem_singleton.mp ((quiet.mem_append rfl).mp released)).symm
  | moved quiet fetched owned queue =>
    obtain ⟨⟨between, grown, _, given, _⟩, heard⟩ := answers.of_quiet quiet
    rcases List.mem_pair.mp ((quiet.mem_append rfl).mp released) with other | same
    · cases other
    · cases same
      have truthful : ∀ student, Service.noFaults .fetch ≠ some (.showsStudent student) := nofun
      have found := Desk.truthful_row formed truthful (heard _ fetched)
      exact (congrArg Prod.fst given).symm.trans (answer_release_beside working formed fresh found owned queue grown)

include working formed fresh in
theorem plain_of_course (course : Desk.Course told taken) (answers : s.Answers Service.noFaults told t)
    (few : s.register.queueCount < maxQueues) (spare : ∀ x ∈ told, ¬s.register.Overfilled x.call) :
    ∀ x ∈ told, Plain x.answer := by
  have plain : ∀ x ∈ told, (s.answer x.call).1 = x.answer → Plain x.answer := by
    intro x member given
    rw [← given]
    exact plain_answer working few (spare x member)
  intro x member
  cases course with
  | quiet quiet =>
    rw [← List.append_nil told] at answers
    exact plain x member ((answers.of_quiet quiet).2 x member)
  | wrote quiet y =>
    obtain ⟨⟨_, given, _⟩, heard⟩ := answers.of_quiet quiet
    rcases List.mem_append.mp member with old | last
    · exact plain x member (heard x old)
    · cases List.mem_singleton.mp last
      exact plain x member (congrArg Prod.fst given)
  | moved quiet fetched owned queue =>
    rcases List.mem_append.mp member with old | last
    · exact plain x member ((answers.of_quiet quiet).2 x old)
    · rcases List.mem_pair.mp last with rfl | rfl
      · exact plain_ok _
      · rw [released_of_course working formed fresh (.moved quiet fetched owned queue) answers
          (List.mem_append_right _ List.mem_cons_self) member]
        exact plain_ok true

end

end Store

namespace Service

/-- Where the log takes records and limits are not reached, a line is never answered by a fault of the service, and who
was moved to another row gets rid of the old one. -/
theorem lines_meet_no_faults {ids : Nat → Id} {zone : Zone} {s : Service} {plans : List (Plan Response)}
    (reached : Reached ids zone s plans) (now : Instant) (explain : String → String) (line : String)
    (distinct : ((List.range
      (((Desk.mk zone now).handleLine explain line).run (world ids noFaults) s).2.minted).map ids).Nodup)
    (working : s.store.journal.Working) (few : s.store.register.queueCount < maxQueues)
    (spare : ∀ x ∈ ((Desk.mk zone now).handleLine explain line).exchanges (world ids noFaults) s,
      ¬s.store.register.Overfilled x.call) :
    (((Desk.mk zone now).handleLine explain line).run (world ids noFaults) s).1.status ≠ 500 ∧
      ∀ slot guard created id email a,
        ⟨.insert slot guard, .ok created⟩ ∈
            ((Desk.mk zone now).handleLine explain line).exchanges (world ids noFaults) s →
        ⟨.release id email, a⟩ ∈ ((Desk.mk zone now).handleLine explain line).exchanges (world ids noFaults) s →
          a = .ok true := by
  have founded := ((Desk.mk zone now).founded_handleLine explain line).tells.exchanges ids noFaults s
  have course := ((Desk.mk zone now).course_handleLine explain line).exchanges ids noFaults s
  have answers := ((Desk.mk zone now).handleLine explain line).answers_exchanges ids noFaults s
  obtain ⟨formed, fresh⟩ := reached.supplied (Plan.minted_le_run ids noFaults _ s) distinct
  rw [List.nil_append] at founded
  rw [List.nil_append, List.nil_append] at course
  refine ⟨fun failed => ?_, fun slot guard created id email a inserted released =>
    Store.released_of_course working formed fresh course answers inserted released⟩
  rcases founded failed with ⟨x, member, fault⟩ | ⟨slot, guard, created, id, email, e, inserted, released⟩
  · exact fault (Store.plain_of_course working formed fresh course answers few spare x member)
  · cases Store.released_of_course working formed fresh course answers inserted released

def moveLine : String :=
  "[\"update_appointment\",\"00000000000000000000000001\",[\"ada@x.edu\"],[11,\"Ada\",\"limits\",\"room 1\",null,null]]"

theorem lines_meet_no_faults_moveLine :
    let ids := fun n => Id.ofNat (n + 1)
    let now : Instant := 1700006400000 + 9 * 3600000
    let explain := fun _ : String => ""
    let s := (start {}).visits ids Zone.utc (movingDay.take 2)
    (((Desk.mk Zone.utc now).handleLine explain moveLine).exchanges (world ids noFaults) s).map (fun x => x.call.capability) =
        [.fetch, .scheduleFor, .atTimeslot, .insert, .release] ∧
      (((Desk.mk Zone.utc now).handleLine explain moveLine).run (world ids noFaults) s).1.status = 201 ∧
        (((Desk.mk Zone.utc now).handleLine explain moveLine).run (world ids noFaults) s).1.status ≠ 500 := by
  intro ids now explain s
  have started : Reached ids Zone.utc (start {}) [] := .started rfl
  obtain ⟨plans, reached⟩ := started.visits (movingDay.take 2)
  let q := (Desk.mk Zone.utc now).dispatch (.updateAppointment (Id.ofNat 1) ⟨"ada@x.edu", false⟩
    ⟨some 11, some "Ada", some "limits", some "room 1", none, none⟩)
  have asked : (Desk.mk Zone.utc now).handleLine explain moveLine = q := by
    have reads : Request.ofText? moveLine = some (.updateAppointment (Id.ofNat 1) ⟨"ada@x.edu", false⟩
      ⟨some 11, some "Ada", some "limits", some "room 1", none, none⟩) := by decide +kernel
    rw [Desk.handleLine, reads]
  have course : (q.exchanges (world ids noFaults) s).map (fun x => x.call.capability) =
      [.fetch, .scheduleFor, .atTimeslot, .insert, .release] := by decide +kernel
  have distinct : ((List.range (q.run (world ids noFaults) s).2.minted).map ids).Nodup := by decide +kernel
  have spare : ∀ x ∈ q.exchanges (world ids noFaults) s, ¬s.store.register.Overfilled x.call := by decide +kernel
  have few : s.store.register.queueCount < maxQueues := by decide +kernel
  have created : (q.run (world ids noFaults) s).1.status = 201 := by decide +kernel
  rw [← asked] at course distinct spare created
  have plain := @lines_meet_no_faults ids Zone.utc s plans reached now explain moveLine distinct
    (working_visits ⟨rfl, rfl⟩) few spare
  exact ⟨course, created, plain.1⟩

end Service

end Bookings
