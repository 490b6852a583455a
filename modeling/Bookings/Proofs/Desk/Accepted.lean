import Mathlib.Data.List.DropRight
import Bookings.Proofs.Desk.Requests
import Bookings.Proofs.Desk.Upcoming

namespace Bookings

namespace Text

theorem trimChars_eq (cs : List Char) : trimChars cs = (cs.dropWhile isBlank).rdropWhile isBlank := rfl

theorem isEmpty_trim (s : String) : (trim s).isEmpty = isBlankText s := by
  rw [Bool.eq_iff_iff, String.isEmpty_iff, ← String.toList_inj, trim, String.toList_ofList, String.toList_empty,
    trimChars_eq, List.rdropWhile_eq_nil_iff, ← List.dropWhile_eq_nil_iff, List.dropWhile_idempotent,
    List.dropWhile_eq_nil_iff, isBlankText, List.all_eq_true]

theorem trimChars_trimChars (cs : List Char) : trimChars (trimChars cs) = trimChars cs := by
  have first : (trimChars cs).dropWhile isBlank = trimChars cs := by
    -- Dropping at the end leaves the first character, which is not blank.
    rw [List.dropWhile_eq_self_iff]
    intro filled blank
    have kept : trimChars cs <+: cs.dropWhile isBlank := List.rdropWhile_prefix _ _
    rw [kept.getElem filled] at blank
    exact List.dropWhile_get_zero_not _ _ (Nat.lt_of_lt_of_le filled kept.length_le) blank
  rw [trimChars_eq (trimChars cs), first, trimChars_eq, List.rdropWhile_idempotent]

theorem trim_trim (s : String) : trim (trim s) = trim s := by
  rw [trim, trim, String.toList_ofList, trimChars_trimChars]

end Text

namespace Rules

structure Stored (text : String) : Prop where
  filled : Text.isBlankText text = false
  trimmed : Text.trim text = text
  bounded : text.utf8ByteSize ≤ 1024

structure Named (email : String) : Prop where
  filled : Text.isBlankText email = false
  bounded : email.utf8ByteSize ≤ 320

theorem required_eq_ok {text : Option String} {field kept : String} (accepted : required text field = .ok kept) :
    Stored kept := by
  unfold required at accepted
  dsimp only at accepted
  split at accepted
  · cases accepted
  · rename_i filled
    split at accepted
    · cases accepted
    · rename_i bounded
      cases accepted
      refine ⟨?_, Text.trim_trim _, Nat.not_lt.mp bounded⟩
      rw [← Text.isEmpty_trim, Text.trim_trim]
      exact Bool.eq_false_iff.mpr filled

theorem caller_eq_ok {c : Caller} (accepted : caller c = .ok ()) : Named c.email := by
  unfold caller at accepted
  split at accepted
  · cases accepted
  · rename_i filled
    split at accepted
    · cases accepted
    · rename_i bounded
      rw [Text.isEmpty_trim] at filled
      exact ⟨Bool.eq_false_iff.mpr filled, Nat.not_lt.mp bounded⟩

end Rules

structure Details.Stored (details : Details) : Prop where
  name : Rules.Stored details.name
  description : Rules.Stored details.description
  location : Rules.Stored details.location

theorem Rules.details_fields {draft : Draft} {kept : Details} (accepted : details draft = .ok kept) :
    required draft.name "name" = .ok kept.name ∧ required draft.description "description" = .ok kept.description ∧
      required draft.location "location" = .ok kept.location := by
  unfold details at accepted
  cases name : required draft.name "name" with
  | error e =>
    rw [name] at accepted
    cases accepted
  | ok first =>
    cases description : required draft.description "description" with
    | error e =>
      rw [name, description] at accepted
      cases accepted
    | ok second =>
      cases location : required draft.location "location" with
      | error e =>
        rw [name, description, location] at accepted
        cases accepted
      | ok third =>
        rw [name, description, location] at accepted
        cases accepted
        exact ⟨rfl, rfl, rfl⟩

theorem Rules.details_eq_ok {draft : Draft} {kept : Details} (accepted : details draft = .ok kept) : kept.Stored := by
  obtain ⟨name, description, location⟩ := details_fields accepted
  exact ⟨required_eq_ok name, required_eq_ok description, required_eq_ok location⟩

namespace Slot

/-- The slot lies in the day that starts at a local midnight, as many of its own lengths behind it as its timeslot
says. -/
structure FitsDay (s : Slot) (z : Zone) (midnight : Int) : Prop where
  aligned : (midnight + z.ahead) % dayMs = 0
  start : s.scheduledTime.toInt = midnight + s.timeslot.toNat * minutesMs s.duration
  positive : 1 ≤ s.duration.toNat
  ends : s.scheduledTime.toInt + minutesMs s.duration ≤ midnight + dayMs

structure Sound (s : Slot) (z : Zone) : Prop where
  day : ∃ midnight, s.FitsDay z midnight
  details : s.details.Stored
  student : ∀ email, s.student = some email → Rules.Named email

variable {z : Zone} {now : Instant} {weekday : UInt8} {w : Span} {s : Slot}

theorem midnight_of_bounds (bounds : weekdayBounds weekday now z = some w) :
    (w.start.toInt + z.ahead) % dayMs = 0 ∧ w.stop.toInt = w.start.toInt + dayMs := by
  obtain ⟨_, start, stop, _⟩ := weekdayBounds_spec bounds
  constructor
  · rw [start, Zone.midnight, Int.sub_add_cancel, Int.mul_emod_left]
  · rw [stop, start]

theorem fitsDay_of_schedule {schedule : Schedule} (bounds : weekdayBounds weekday now z = some w)
    (valid : schedule.validate = .ok ()) (present : s.timeslot.toNat < schedule.timeslots)
    (start : s.scheduledTime = schedule.startOf w s.timeslot) (length : s.duration = schedule.duration) :
    s.FitsDay z w.start.toInt := by
  obtain ⟨midnight, stop⟩ := midnight_of_bounds bounds
  obtain ⟨_, nonzero, fits⟩ := schedule.validate_eq_ok_iff.mp valid
  have early := Schedule.lt_minutesPerDay valid present
  have value := slotStart_toInt bounds early s.duration
  have positive : schedule.duration.toNat ≠ 0 := fun zero => nonzero (UInt32.toNat_inj.mp zero)
  have ends : (s.timeslot.toNat + 1) * s.duration.toNat ≤ minutesPerDay := by
    rw [length]
    exact Nat.le_trans (Nat.mul_le_mul_right _ present) fits
  rw [Nat.add_mul, Nat.one_mul, minutesPerDay] at ends
  rw [Schedule.startOf, ← length] at start
  rw [← start] at value
  refine ⟨midnight, value, ?_, ?_⟩
  · rw [length]
    omega
  · rw [value, timeslot_mul_minutesMs, minutesMs, minuteMs, dayMs]
    omega

/-- What is moved keeps its length, which a schedule of the day need not have, and is checked to end in time. -/
theorem fitsDay_of_check (bounds : weekdayBounds weekday now z = some w) (early : s.timeslot.toNat < minutesPerDay)
    (start : s.scheduledTime = slotStart w s.timeslot s.duration) (positive : 1 ≤ s.duration.toNat)
    (fits : Desk.fitsDay w s.scheduledTime s.duration = true) : s.FitsDay z w.start.toInt := by
  obtain ⟨midnight, stop⟩ := midnight_of_bounds bounds
  rw [Desk.fitsDay, Bool.and_eq_true, decide_eq_true_eq, stop] at fits
  refine ⟨midnight, ?_, positive, fits.2⟩
  rw [start]
  exact slotStart_toInt bounds early s.duration

theorem FitsDay.with {midnight : Int} (fits : s.FitsDay z midnight) (queue : Id) (student : Option String)
    (details : Details) : ({ s with queue, student, details } : Slot).FitsDay z midnight :=
  ⟨fits.aligned, fits.start, fits.positive, fits.ends⟩

theorem Sound.with_student (sound : s.Sound z) {student : Option String}
    (named : ∀ email, student = some email → Rules.Named email) : ({ s with student } : Slot).Sound z := by
  obtain ⟨⟨midnight, fits⟩, details, _⟩ := sound
  exact ⟨⟨midnight, fits.with _ _ _⟩, details, named⟩

theorem Sound.with_details (sound : s.Sound z) {details : Details} (stored : details.Stored) :
    ({ s with details } : Slot).Sound z := by
  obtain ⟨⟨midnight, fits⟩, _, named⟩ := sound
  exact ⟨⟨midnight, fits.with _ _ _⟩, stored, named⟩

end Slot

def Call.Sound (z : Zone) : Call → Prop
  | .replaceSchedule _ schedule _ => schedule.validate = .ok ()
  | .insert slot _ => slot.Sound z
  | .publish _ slots => ∀ slot ∈ slots, (∃ midnight, slot.FitsDay z midnight) ∧ slot.details.Stored
  | .edit _ _ details => details.Stored
  | .claim _ _ _ _ email => Rules.Named email
  | _ => True

namespace Register

variable {z : Zone} {r : Register}

structure Sound (r : Register) (z : Zone) : Prop where
  valid : Schedules.Valid r.schedule?
  rows : ∀ queue, ∀ row ∈ r.rows queue, row.Sound z

theorem sound_empty (z : Zone) : empty.Sound z where
  valid := (booked_empty z 0).valid
  rows := by simp

theorem Sound.of_same {s : Register} (sound : r.Sound z) (same : s.Same r) : s.Sound z where
  valid := by
    rw [same.schedule?]
    exact sound.valid
  rows := by
    intro queue
    rw [same.rows]
    exact sound.rows queue

theorem Admits.sound_rows {c : Call} {e : Event} {a : c.Answer} (admitted : r.Admits c e a) (asked : c.Sound z)
    (sound : ∀ row ∈ r.rows e.queue, row.Sound z) {row : Slot} (member : row ∈ ((r.content e.queue).apply e).rows) :
    row.Sound z := by
  cases admitted with
  | replaceSchedule vacant => exact sound row member
  | insert small room free =>
    rcases List.mem_cons.mp ((Queue.rows_insert_perm _ _).mem_iff.mp member) with rfl | old
    · exact asked
    · exact sound row old
  | publish filled small =>
    rcases List.mem_append.mp ((Queue.rows_foldl_insert_perm _ _).mem_iff.mp member) with created | old
    · obtain ⟨slot, published, rfl⟩ := List.mem_map.mp created
      obtain ⟨⟨midnight, fits⟩, details⟩ := asked slot published
      exact ⟨⟨midnight, fits.with _ _ _⟩, details, nofun⟩
    · exact sound row old
  | edit indexed present held =>
    rcases Queue.mem_rows_modify member with old | ⟨row, old, rfl⟩
    · exact sound row old
    · exact (sound row old).with_details asked
  | release indexed present held =>
    rcases Queue.mem_rows_modify member with old | ⟨row, old, rfl⟩
    · exact sound row old
    · exact (sound row old).with_student nofun
  | claim room first taken =>
    rcases Queue.mem_rows_modify member with old | ⟨row, old, rfl⟩
    · exact sound row old
    · refine (sound row old).with_student fun holder named => ?_
      cases named
      exact asked

theorem Sound.apply (sound : r.Sound z) {c : Call} {e : Event} {a : c.Answer} (admitted : r.Admits c e a)
    (asked : c.Sound z) : (r.apply e).Sound z where
  valid := by
    cases admitted with
    | replaceSchedule vacant => exact valid_scheduleReplaced sound.valid asked
    | _ =>
      rw [schedule?_apply _ fun _ _ same => Event.noConfusion same]
      exact sound.valid
  rows := by
    intro queue row member
    by_cases own : queue = e.queue
    · rw [own, rows_apply_self] at member
      exact admitted.sound_rows asked (sound.rows e.queue) member
    · rw [rows_apply_other r e own] at member
      exact sound.rows queue row member

end Register

namespace Store

variable {s t : Store} {z : Zone} {faults : Faults}

theorem sound_answers {xs : List Exchange} (sound : s.register.Sound z) (answers : s.Answers faults xs t)
    (asked : ∀ x ∈ xs, x.call.acknowledges x.answer = true → x.call.Sound z) : t.register.Sound z := by
  induction xs generalizing s with
  | nil =>
    cases answers
    exact sound
  | cons x xs ih =>
    obtain ⟨first, others⟩ := List.forall_mem_cons.mp asked
    obtain ⟨between, given, rest⟩ := answers
    refine ih ?_ rest others
    rcases (outcome_of_answerWith given).quiet_or_applied with ⟨_, same⟩ | ⟨e, admitted, same⟩
    · exact sound.of_same same
    · exact (sound.apply admitted (first admitted.acknowledges)).of_same same

theorem duration_of_fetch {id : Id} {row : Slot} (sound : s.register.Sound z)
    (answered : (s.answerWith faults (.fetch id)).1 = .ok row) : 1 ≤ row.duration.toNat := by
  obtain ⟨home, slot, found, shown⟩ := fetch_shows answered
  obtain ⟨member, _⟩ := Queue.mem_of_slot? (Register.resolve_eq_ok found).2
  obtain ⟨_, fits⟩ := (sound.rows home slot member).day
  rcases shown with rfl | ⟨student, _, rfl⟩ <;> exact fits.positive

end Store

namespace Desk

variable {d : Desk} {s t : Store} {faults : Faults}

theorem Replaces.sound {draft : Draft} {caller : Caller} {w : Span} {old new : Slot} {schedule : Schedule}
    {capacity : Nat} (replaces : d.Replaces draft caller w old new) (known : Rules.caller caller = .ok ())
    (valid : schedule.validate = .ok ()) (seats : schedule.capacityAt new.timeslot = some capacity)
    (positive : 1 ≤ old.duration.toNat) : new.Sound d.zone := by
  have early := Schedule.lt_minutesPerDay valid (Schedule.lt_timeslots seats)
  have start := replaces.start
  rw [← replaces.duration] at start positive
  refine ⟨⟨_, Slot.fitsDay_of_check replaces.bounds early start positive replaces.fits⟩,
    Rules.details_eq_ok replaces.texts, fun email held => ?_⟩
  rw [replaces.claimed] at held
  cases held
  exact Rules.caller_eq_ok known

theorem Performs.sound {op : Operation} {told : List Exchange} {taken : List Id}
    {answer : Except BookingError op.Result} (performs : d.Performs op told taken answer)
    (answers : s.Answers faults told t) (sound : s.register.Sound d.zone) : t.register.Sound d.zone := by
  have last : ∀ {x : Exchange}, s.Answers faults [x] t → (x.call.acknowledges x.answer = true → x.call.Sound d.zone) →
      t.register.Sound d.zone := by
    intro x rest asked
    exact Store.sound_answers sound rest (List.forall_mem_singleton.mpr asked)
  have scheduled : ∀ {queue weekday schedule},
      (s.answerWith faults (.scheduleFor queue weekday)).1 = .ok (some schedule) → schedule.validate = .ok () := by
    intro queue weekday schedule answered
    exact sound.valid queue weekday schedule (Store.scheduleFor_eq_ok answered).symm
  cases performs with
  | refused quiet =>
    rw [answers.quiet quiet]
    exact sound
  | claimed quiet bounds found ahead known => exact last (answers.of_quiet quiet).1 fun _ => Rules.caller_eq_ok known
  | signed quiet bounds found ahead known texts =>
    obtain ⟨rest, heard⟩ := answers.of_quiet quiet
    have present := Schedule.lt_timeslots found.seats
    refine last rest fun _ => ⟨⟨_, Slot.fitsDay_of_schedule bounds (scheduled (heard _ found.stored)) present rfl rfl⟩,
      Rules.details_eq_ok texts, fun email held => ?_⟩
    cases held
    exact Rules.caller_eq_ok known
  | revised story =>
    cases story with
    | refused quiet plain =>
      rw [answers.quiet quiet]
      exact sound
    | edited quiet texts => exact last (answers.of_quiet quiet).1 fun _ => Rules.details_eq_ok texts
    | full quiet fetched queue => exact last (answers.of_quiet quiet).1 nofun
    | moved quiet fetched replaces known found =>
      obtain ⟨rest, heard⟩ := answers.of_quiet quiet
      have positive := Store.duration_of_fetch sound (heard _ fetched)
      have inserted := replaces.sound known (scheduled (heard _ found.stored)) found.seats positive
      exact Store.sound_answers sound rest (List.forall_mem_cons.mpr
        ⟨fun _ => inserted, List.forall_mem_singleton.mpr fun _ => True.intro⟩)
  | removed story =>
    cases story with
    | refused quiet plain =>
      rw [answers.quiet quiet]
      exact sound
    | vacated quiet =>
      rw [answers.quiet quiet]
      exact sound
    | released quiet fetched ahead => exact last (answers.of_quiet quiet).1 fun _ => True.intro
  | replaced quiet bounds valid => exact last (answers.of_quiet quiet).1 fun _ => valid
  | published quiet bounds stored texts placed =>
    obtain ⟨rest, heard⟩ := answers.of_quiet quiet
    refine last rest fun _ slot member => ?_
    obtain ⟨present, start, length, same⟩ := placed slot member
    refine ⟨⟨_, Slot.fitsDay_of_schedule bounds (scheduled (heard _ stored)) present start length⟩, ?_⟩
    rw [same]
    exact Rules.details_eq_ok texts

end Desk

namespace Service

variable {ids : Nat → Id} {zone : Zone} {vs : List Visit}

theorem sound_visits {s : Service} (sound : s.store.register.Sound zone) :
    (s.visits ids zone vs).store.register.Sound zone := by
  induction vs generalizing s with
  | nil => exact sound
  | cons v vs ih =>
    obtain ⟨told, answers, performs⟩ := told_visit ((Desk.mk zone v.now).tells_perform v.operation) s
    exact ih (performs.sound answers sound)

/-- Whatever requests are made, by whomever and at whatever times, each row that is stored afterwards lies in a local day
at its timeslot, and its texts and its student's email were accepted. -/
theorem stored_rows_are_sound {disk : Log.Disk} {queue : Id} {row : Slot} (blank : disk.bytes = [])
    (stored : row ∈ ((start disk).visits ids zone vs).store.register.rows queue) : row.Sound zone := by
  have started : (start disk).store.register.Sound zone := by
    rw [start, Store.open, blank]
    exact Register.sound_empty zone
  exact (sound_visits started).rows queue row stored

theorem stored_rows_are_sound_movingDay :
    let s := (start {}).visits (fun n => Id.ofNat (n + 1)) Zone.utc movingDay
    (s.store.register.rows (Id.ofNat 7)).map (fun row => (row.timeslot, row.student)) =
        [(10, none), (11, none), (14, some "ada@x.edu")] ∧
      ∀ row ∈ s.store.register.rows (Id.ofNat 7), row.Sound Zone.utc := by
  dsimp only
  have blank : Log.Disk.bytes {} = [] := rfl
  exact ⟨by decide +kernel, fun row member => stored_rows_are_sound blank member⟩

end Service

end Bookings
