import Bookings.Proofs.Desk.Ahead

namespace Bookings

def Slot.over (s : Slot) (now : Instant) : Bool := s.scheduledTime.toInt + minutesMs s.duration ≤ now.toInt

namespace Store

variable {s t : Store} {faults : Faults} {told : List Exchange} {x : Exchange}

theorem kept_through (answers : s.Answers faults (told ++ [x]) t) (quiet : Quiet told) (orderly : s.register.Orderly)
    (plain : ∀ id email, x.call ≠ .release id email) {queue : Id} {row : Slot} {email : String}
    (member : row ∈ s.register.rows queue) (held : row.student = some email) :
    ∃ details, { row with details } ∈ t.register.rows queue := by
  obtain ⟨⟨_, asked, rfl⟩, _⟩ := answers.of_quiet quiet
  have outcome := outcome_of_answerWith asked
  rcases (outcome.advances orderly).of_held member held with stays | ⟨details, _, edited⟩ | ⟨same, _⟩
  · exact ⟨row.details, stays⟩
  · exact ⟨details, edited⟩
  · exact absurd (congrArg Exchange.call same) (plain _ _)

theorem early_of_inserted {new created : Slot} {guard : Guard} {early : Instant} {email : String}
    (inserted : s.answerWith faults (.insert new guard) = (.ok created, t)) (claimed : new.student = some email)
    (exclusive : guard.exclusiveFrom = some early) (sorted : (s.register.content new.queue).Sorted) {row : Slot}
    (member : row ∈ s.register.rows new.queue) (held : row.student = some email) (near : row.scheduledTime < farFuture) :
    row.scheduledTime < early := by
  have outcome := outcome_of_answerWith inserted
  obtain ⟨e, admitted, _⟩ := outcome.applied rfl
  cases admitted with
  | insert small room free =>
    have none := Register.held_eq_zero sorted claimed exclusive (Int64.le_refl early) free
    rw [Register.held, List.countP_eq_zero] at none
    have outside := none row member
    rw [Slot.heldAt_iff, Span.contains_iff] at outside
    exact Int64.not_le.mp fun later => outside ⟨held, later, near⟩

end Store

namespace Desk

variable {d : Desk} {s t : Store} {faults : Faults}

/-- A student has moved a row of theirs and holds another one in its place, which has not started. -/
structure Exchanges (d : Desk) (op : Operation) (r : Register) (queue : Id) (email : String) (old new : Slot) : Prop where
  asked : ∃ draft caller, op = .updateAppointment old.id draft caller ∧ caller.email = email
  present : new ∈ r.rows queue
  held : new.student = some email
  ahead : d.now ≤ new.scheduledTime
  vacated : { old with student := none } ∈ r.rows queue

theorem Performs.keeps_started {op : Operation} {told : List Exchange} {taken : List Id}
    {answer : Except BookingError op.Result} (performs : d.Performs op told taken answer)
    (answers : s.Answers faults told t) (fresh : s.register.Fresh taken) (formed : s.register.WellFormed) {queue : Id}
    {row : Slot} {email : String} (member : row ∈ s.register.rows queue) (held : row.student = some email)
    (started : row.scheduledTime < d.now) :
    (∃ details, { row with details } ∈ t.register.rows queue) ∨
      ∃ new, op.granted answer = some new ∧ d.Exchanges op t.register queue email row new := by
  have orderly := formed.orderly
  have still : row ∈ t.register.rows queue → ∃ details, { row with details } ∈ t.register.rows queue :=
    fun stays => ⟨row.details, stays⟩
  cases performs with
  | refused quiet =>
    cases answers.quiet quiet
    exact .inl (still member)
  | claimed quiet bounds lookup ahead known => exact .inl (Store.kept_through answers quiet orderly nofun member held)
  | signed quiet bounds lookup ahead known texts => exact .inl (Store.kept_through answers quiet orderly nofun member held)
  | replaced quiet bounds valid => exact .inl (Store.kept_through answers quiet orderly nofun member held)
  | published quiet bounds stored texts placed => exact .inl (Store.kept_through answers quiet orderly nofun member held)
  | removed story =>
    left
    cases story with
    | refused quiet plain =>
      cases answers.quiet quiet
      exact still member
    | vacated quiet =>
      cases answers.quiet quiet
      exact still member
    | released quiet fetched ahead =>
      obtain ⟨⟨_, asked, rfl⟩, heard⟩ := answers.of_quiet quiet
      rcases (Store.kept_by_release asked orderly).2 member held with stays | ⟨named, _⟩
      · exact still stays
      · -- A fault may hide whose the row is, but not when it starts.
        subst named
        obtain ⟨student, rfl⟩ := Store.fetched_row formed member (heard _ fetched)
        exact absurd started (Int64.not_lt.mpr (Rules.cancellable_eq_ok ahead))
  | revised story =>
    cases story with
    | refused quiet plain =>
      cases answers.quiet quiet
      exact .inl (still member)
    | edited quiet texts => exact .inl (Store.kept_through answers quiet orderly nofun member held)
    | full quiet fetched named => exact .inl (Store.kept_through answers quiet orderly nofun member held)
    | moved quiet fetched replaces known lookup =>
      rename_i caller told current new created w schedule capacity a
      obtain ⟨⟨between, inserted, _, released, rfl⟩, heard⟩ := answers.of_quiet quiet
      cases (Store.inserted_row inserted).1
      obtain ⟨present, _, kept⟩ :=
        Store.rows_after_move formed fresh (heard _ fetched) inserted released replaces.claimed
      rcases kept member held with stays | ⟨rfl, rfl, rfl, vacant⟩
      · exact .inl (still stays)
      · obtain ⟨student, rfl⟩ := Store.fetched_row formed member (heard _ fetched)
        rw [replaces.queue] at present
        have own := formed.named queue row member
        subst own
        exact .inr ⟨new, rfl, ⟨_, caller, rfl, rfl⟩, present, replaces.claimed,
          Rules.notStarted_eq_ok replaces.ahead, vacant⟩

theorem Performs.signup_idle {queue : Id} {weekday : UInt8} {timeslot : UInt32} {draft : Draft} {caller : Caller}
    {told : List Exchange} {taken : List Id} {slot : Slot}
    (performs : d.Performs (.signup queue weekday timeslot draft caller) told taken (.ok slot))
    (answers : s.Answers faults told t) (timely : s.register.Timely d.zone) :
    ∃ schedule, s.register.schedule? queue weekday = some schedule ∧
      ∀ row ∈ s.register.rows queue, row.student = some caller.email →
        row.over d.now = true ∨
          schedule.duration < row.duration ∧ row.scheduledTime.toInt + schedule.durationMs < d.now.toInt := by
  generalize answered : (Except.ok slot : Except BookingError Slot) = answer at performs
  cases performs with
  | refused quiet => contradiction
  | signed quiet bounds found ahead known texts =>
    rename_i told w schedule capacity details a
    obtain ⟨⟨between, asked, rfl⟩, heard⟩ := answers.of_quiet quiet
    refine ⟨schedule, found.scheduled heard, fun row member theirs => ?_⟩
    cases a with
    | error e => cases answered
    | ok created =>
      have early := Store.early_of_inserted asked rfl rfl (timely.formed.orderly.sorted queue) member theirs
        (timely.near queue row member)
      rw [Int64.lt_iff_toInt_lt, exclusiveFrom_toInt (representable_of_bounds bounds)] at early
      -- Rows are looked for by the schedule's length, and are over by their own.
      by_cases longer : schedule.duration < row.duration
      · exact .inr ⟨longer, by omega⟩
      · have length := UInt32.le_iff_toNat_le.mp (UInt32.not_lt.mp longer)
        left
        simp only [Slot.over, decide_eq_true_eq]
        simp only [Schedule.durationMs, minutesMs, minuteMs] at early ⊢
        omega

end Desk

namespace Service

variable {ids : Nat → Id} {zone : Zone} {disk : Log.Disk} {vs : List Visit}

/-- Whatever requests were made of a service whose log was blank, by whom and at any times, a student's row that has
started when the next one is made is theirs behind it, unless they have moved it and hold one that has not started. -/
theorem started_rows_stay {v : Visit} {queue : Id} {row : Slot} {email : String} (blank : disk.bytes = [])
    (fresh : ((List.range ((start disk).visits ids zone (vs ++ [v])).minted).map ids).Nodup)
    (member : row ∈ ((start disk).visits ids zone vs).store.register.rows queue) (held : row.student = some email)
    (started : row.scheduledTime < v.now) :
    (∃ details, { row with details } ∈ ((start disk).visits ids zone (vs ++ [v])).store.register.rows queue) ∨
      ∃ new, ((start disk).visits ids zone vs).grant? ids zone v = some new ∧
        (Desk.mk zone v.now).Exchanges v.operation ((start disk).visits ids zone (vs ++ [v])).store.register queue email
          row new := by
  obtain ⟨told, taken, answers, performs, unused, before, _⟩ := performs_last blank fresh
  exact performs.keeps_started answers unused before.formed member held started

def tenOClock : Slot :=
  ⟨Id.ofNat 1, Id.ofNat 7, 10, 1700042400000, 60, some "ada@x.edu", ⟨"Ada", "limits", "room 1", .zero, .zero⟩⟩

theorem started_rows_stay_lateRemoval :
    let removal : Visit := ⟨1700044200000, .removeSignup (Id.ofNat 1) ⟨"ada@x.edu", false⟩, noFaults⟩
    let after := (start {}).visits (fun n => Id.ofNat (n + 1)) Zone.utc (lateMove.take 2 ++ [removal])
    tenOClock ∈ ((start {}).visits (fun n => Id.ofNat (n + 1)) Zone.utc (lateMove.take 2)).store.register.rows
        (Id.ofNat 7) ∧
      tenOClock.scheduledTime < removal.now ∧
      ((∃ details, { tenOClock with details } ∈ after.store.register.rows (Id.ofNat 7)) ∨
        ∃ new, ((start {}).visits (fun n => Id.ofNat (n + 1)) Zone.utc (lateMove.take 2)).grant?
            (fun n => Id.ofNat (n + 1)) Zone.utc removal = some new ∧
          (Desk.mk Zone.utc removal.now).Exchanges removal.operation after.store.register (Id.ofNat 7) "ada@x.edu"
            tenOClock new) := by
  intro removal after
  have member : tenOClock ∈ ((start {}).visits (fun n => Id.ofNat (n + 1)) Zone.utc
      (lateMove.take 2)).store.register.rows (Id.ofNat 7) := by decide +kernel
  have started : tenOClock.scheduledTime < removal.now := by decide
  exact ⟨member, started, started_rows_stay rfl (by decide +kernel) member rfl started⟩

/-- At half past ten the student moves it to noon. -/
theorem move_releases_started_row :
    let move : Visit := ⟨1700044200000, .updateAppointment (Id.ofNat 1)
      ⟨some 12, some "Ada", some "limits", some "room 1", none, none⟩ ⟨"ada@x.edu", false⟩, noFaults⟩
    (lateMove.take 2 ++ [move]).Pairwise (fun u v => u.now ≤ v.now) ∧
      ((List.range ((start {}).visits (fun n => Id.ofNat (n + 1)) Zone.utc (lateMove.take 2 ++ [move])).minted).map
        fun n => Id.ofNat (n + 1)).Nodup ∧
      ((start {}).visits (fun n => Id.ofNat (n + 1)) Zone.utc (lateMove.take 2)).store.register.rows (Id.ofNat 7) =
        [tenOClock] ∧
      tenOClock.scheduledTime < move.now ∧
      (((start {}).visits (fun n => Id.ofNat (n + 1)) Zone.utc (lateMove.take 2 ++ [move])).store.register.rows
        (Id.ofNat 7)).map (fun row => (row.id, row.student)) =
          [(Id.ofNat 1, none), (Id.ofNat 2, some "ada@x.edu")] := by decide +kernel

/-- Whatever requests were made of a service whose log was blank, at any times, a signup that is granted finds the
student without a row in the queue that is not over, but for rows longer than the timeslots of the weekday for which
they sign up: those have lasted for one of these. -/
theorem signups_wait_for_rows {now : Instant} {faults : Faults} {queue : Id} {weekday : UInt8} {timeslot : UInt32}
    {draft : Draft} {caller : Caller} {slot : Slot} (blank : disk.bytes = [])
    (fresh : ((List.range ((start disk).visits ids zone
      (vs ++ [⟨now, .signup queue weekday timeslot draft caller, faults⟩])).minted).map ids).Nodup)
    (granted : ((start disk).visits ids zone vs).reply ids zone
      ⟨now, .signup queue weekday timeslot draft caller, faults⟩ = .ok slot) :
    ∃ schedule, ((start disk).visits ids zone vs).store.register.schedule? queue weekday = some schedule ∧
      ∀ row ∈ ((start disk).visits ids zone vs).store.register.rows queue, row.student = some caller.email →
        row.over now = true ∨
          schedule.duration < row.duration ∧ row.scheduledTime.toInt + schedule.durationMs < now.toInt := by
  obtain ⟨told, taken, answers, performs, _, before, _⟩ := performs_last blank fresh
  rw [granted] at performs
  exact performs.signup_idle answers before

theorem signups_wait_for_rows_lateMove :
    let draft : Draft := { name := some "Ada", description := some "limits", location := some "room 1" }
    let ada : Caller := ⟨"ada@x.edu", false⟩
    let before := (start {}).visits (fun n => Id.ofNat (n + 1)) Zone.utc (lateMove.take 2)
    before.reply (fun n => Id.ofNat (n + 1)) Zone.utc ⟨1700047800000, .signup (Id.ofNat 7) 3 12 draft ada, noFaults⟩ =
        .ok ⟨Id.ofNat 2, Id.ofNat 7, 12, 1700049600000, 60, some ada.email,
          ⟨"Ada", "limits", "room 1", .zero, .zero⟩⟩ ∧
      before.store.register.rows (Id.ofNat 7) = [tenOClock] ∧
      ∃ schedule, before.store.register.schedule? (Id.ofNat 7) 3 = some schedule ∧
        ∀ row ∈ before.store.register.rows (Id.ofNat 7), row.student = some ada.email →
          row.over 1700047800000 = true ∨ schedule.duration < row.duration ∧
            row.scheduledTime.toInt + schedule.durationMs < (1700047800000 : Instant).toInt := by
  intro draft ada before
  have granted : before.reply (fun n => Id.ofNat (n + 1)) Zone.utc
      ⟨1700047800000, .signup (Id.ofNat 7) 3 12 draft ada, noFaults⟩ =
        .ok ⟨Id.ofNat 2, Id.ofNat 7, 12, 1700049600000, 60, some ada.email,
          ⟨"Ada", "limits", "room 1", .zero, .zero⟩⟩ := by decide +kernel
  exact ⟨granted, by decide +kernel, signups_wait_for_rows rfl (by decide +kernel) granted⟩

def runningHour : List Visit :=
  let draft : Draft := { name := some "Ada", description := some "limits", location := some "room 1" }
  let staff : Caller := ⟨"staff@x.edu", true⟩
  let ones (n : Nat) : Capacities := ⟨(List.replicate n '1').filterMap Capacities.digit?⟩
  [⟨1700006400000, .updateSchedule (Id.ofNat 7) 3 60 (ones 24) staff, noFaults⟩,
    ⟨1700006400000, .updateSchedule (Id.ofNat 7) 4 30 (ones 48) staff, noFaults⟩,
    ⟨1700006400000, .signup (Id.ofNat 7) 3 9 draft ⟨"ada@x.edu", false⟩, noFaults⟩]

theorem signup_beside_running_row :
    let draft : Draft := { name := some "Ada", description := some "limits", location := some "room 1" }
    let ada : Caller := ⟨"ada@x.edu", false⟩
    let signup : Visit := ⟨1700041500000, .signup (Id.ofNat 7) 4 0 draft ada, noFaults⟩
    let before := (start {}).visits (fun n => Id.ofNat (n + 1)) Zone.utc runningHour
    ((List.range ((start {}).visits (fun n => Id.ofNat (n + 1)) Zone.utc (runningHour ++ [signup])).minted).map
        fun n => Id.ofNat (n + 1)).Nodup ∧
      (before.grant? (fun n => Id.ofNat (n + 1)) Zone.utc signup).map Slot.id = some (Id.ofNat 2) ∧
      (before.store.register.rows (Id.ofNat 7)).map (fun row => (row.student, row.over signup.now)) =
        [(some ada.email, false)] := by decide +kernel

end Service

end Bookings
