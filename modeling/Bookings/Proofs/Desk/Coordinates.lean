import Bookings.Proofs.Desk.Disclosure
import Bookings.Proofs.Protocol.Coordinates

namespace Bookings

def Details.Located (P : Single → Prop) (d : Details) : Prop := ∀ x ∈ d.coordinates, P x

variable {P : Bookings.Single → Prop}

theorem Rules.located_details {draft : Draft} {kept : Details} (accepted : details draft = .ok kept) (origin : P .zero)
    (submitted : ∀ x ∈ draft.coordinates, P x) : kept.Located P := by
  have place : kept.mapX = draft.mapX.getD .zero ∧ kept.mapY = draft.mapY.getD .zero := by
    obtain ⟨name, description, location⟩ := details_fields accepted
    unfold details at accepted
    rw [name, description, location] at accepted
    have same := Except.ok.inj accepted
    exact ⟨(congrArg Details.mapX same).symm, (congrArg Details.mapY same).symm⟩
  have part : ∀ {own : Option Single}, own ∈ [draft.mapX, draft.mapY] → P (own.getD .zero) := by
    intro own among
    cases own with
    | none => exact origin
    | some x => exact submitted x (List.mem_filterMap.mpr ⟨_, among, rfl⟩)
  intro x member
  rcases List.mem_pair.mp member with rfl | rfl
  · exact place.1 ▸ part (by simp)
  · exact place.2 ▸ part (by simp)

def Call.Located (P : Single → Prop) : Call → Prop
  | .insert slot _ => slot.details.Located P
  | .publish _ slots => ∀ slot ∈ slots, slot.details.Located P
  | .edit _ _ details => details.Located P
  | _ => True

def Exchange.rows : Exchange → List Slot
  | ⟨.insert .., .ok row⟩ => [row]
  | ⟨.claim .., .ok row⟩ => [row]
  | ⟨c, a⟩ => c.listed a

theorem Queue.mem_of_within {q : Queue} {w : Span} {row : Slot} (member : row ∈ q.within w) : row ∈ q.rows := by
  rw [within, Array.toList_extract, List.extract_eq_take_drop] at member
  exact List.mem_of_mem_drop (List.mem_of_mem_take member)

namespace Register

variable {r : Register} {c : Call} {e : Event} {a : c.Answer}

def Located (P : Bookings.Single → Prop) (r : Register) : Prop := ∀ queue, ∀ row ∈ r.rows queue, row.details.Located P

theorem Admits.located (admitted : r.Admits c e a) (asked : c.Located P) (located : r.Located P) :
    (r.apply e).Located P := by
  intro queue row member
  by_cases own : queue = e.queue
  · rw [own, rows_apply_self] at member
    cases admitted with
    | replaceSchedule vacant => exact located _ row member
    | insert small room free =>
      rcases List.mem_cons.mp ((Queue.rows_insert_perm _ _).mem_iff.mp member) with rfl | old
      · exact asked
      · exact located _ row old
    | publish filled small =>
      rcases List.mem_append.mp ((Queue.rows_foldl_insert_perm _ _).mem_iff.mp member) with created | old
      · obtain ⟨slot, published, rfl⟩ := List.mem_map.mp created
        exact asked slot published
      · exact located _ row old
    | edit indexed present held =>
      rcases Queue.mem_rows_modify member with old | ⟨row, old, rfl⟩
      · exact located _ row old
      · exact asked
    | release indexed present held =>
      rcases Queue.mem_rows_modify member with old | ⟨row, old, rfl⟩ <;> exact located _ row old
    | claim room first taken =>
      rcases Queue.mem_rows_modify member with old | ⟨row, old, rfl⟩ <;> exact located _ row old
  · rw [rows_apply_other r e own] at member
    exact located queue row member

end Register

namespace Store

variable {s : Store} {faults : Faults} {c : Call}

theorem located_answerWith (located : s.register.Located P) (faults : Faults)
    (asked : c.acknowledges (s.answerWith faults c).1 = true → c.Located P) :
    (s.answerWith faults c).2.register.Located P ∧
      ∀ row ∈ (⟨c, (s.answerWith faults c).1⟩ : Exchange).rows, row.details.Located P := by
  have listed : ∀ row ∈ c.listed (s.answerWith faults c).1, row.details.Located P := by
    intro row member
    have shown := (s.listed_answerWith faults c).subset member
    cases c with
    | within queue w =>
      have inside : row ∈ s.register.within queue w := shown
      rw [Register.within_eq] at inside
      exact located queue row (Queue.mem_of_within inside)
    | atTimeslot queue w timeslot =>
      have inside : row ∈ s.register.atTimeslot queue w timeslot := shown
      rw [Register.atTimeslot_eq] at inside
      exact located queue row (Queue.mem_of_within (List.mem_filter.mp inside).1)
    | claimedBy queue w email =>
      have inside : row ∈ s.register.claimedBy queue w email := shown
      rw [Register.claimedBy_eq] at inside
      exact located queue row (Queue.mem_of_within (List.mem_filter.mp inside).1)
    | _ => cases shown
  have outcome := s.outcome_answerWith faults c
  generalize s.answerWith faults c = answered at asked listed outcome ⊢
  obtain ⟨a, t⟩ := answered
  rcases outcome.quiet_or_applied with ⟨quiet, same⟩ | ⟨e, admitted, same⟩
  · refine ⟨fun queue row member => located queue row (same.rows queue ▸ member), fun row member => ?_⟩
    cases c with
    | insert | claim =>
      cases a with
      | ok own => cases quiet
      | error e => cases member
    | _ => exact listed row member
  · have stored := admitted.located (asked admitted.acknowledges) located
    refine ⟨fun queue row member => stored queue row (same.rows queue ▸ member), fun row member => ?_⟩
    cases admitted with
    | insert small room free =>
      cases List.mem_singleton.mp member
      exact asked rfl
    | claim room first taken =>
      cases List.mem_singleton.mp member
      rename_i queue w timeslot capacity email vacant
      have self : (s.register.apply (.slotClaimed vacant.id queue email)).rows queue =
          ((s.register.content queue).setStudent vacant.id (some email)).rows :=
        Register.rows_apply_self s.register (.slotClaimed vacant.id queue email)
      exact stored queue row (self ▸ (Queue.mem_of_slot? taken).1)
    | _ => exact listed row member

end Store

namespace Desk

/-- What a plan stores lies at places with the property, and every coordinate in its response is that of a row that it
was shown. -/
structure Shows (P : Bookings.Single → Prop) (told : List Exchange) (response : Response) : Prop where
  located : ∀ x ∈ told, x.call.acknowledges x.answer = true → x.call.Located P
  rows : ∀ v ∈ response.items, v.coordinates ≠ [] → ∃ x ∈ told, ∃ row ∈ x.rows, v = row.toJson

variable {told : List Exchange} {response : Response}

theorem located_of_quiet (quiet : Quiet told) :
    ∀ x ∈ told, x.call.acknowledges x.answer = true → x.call.Located P := by
  intro x heard done
  rw [Call.acknowledges_of_reads (quiet x heard)] at done
  cases done

theorem shows_quiet (quiet : Quiet told)
    (rows : ∀ v ∈ response.items, v.coordinates ≠ [] → ∃ x ∈ told, ∃ row ∈ x.rows, v = row.toJson) :
    Shows P told response := ⟨located_of_quiet quiet, rows⟩

theorem shows_error (quiet : Quiet told) (e : BookingError) : Shows P told (.ofError e) :=
  shows_quiet quiet (List.forall_mem_nil _)

theorem shows_last {x : Exchange} (quiet : Quiet told)
    (located : x.call.acknowledges x.answer = true → x.call.Located P)
    (rows : ∀ v ∈ response.items, v.coordinates ≠ [] → ∃ row ∈ x.rows, v = row.toJson) :
    Shows P (told ++ [x]) response := by
  refine ⟨List.forall_mem_append.mpr ⟨located_of_quiet quiet, List.forall_mem_singleton.mpr located⟩, ?_⟩
  intro v member placed
  obtain ⟨row, shown, same⟩ := rows v member placed
  exact ⟨x, List.mem_append_right _ (List.mem_singleton_self x), row, shown, same⟩

structure Places (P : Bookings.Single → Prop) (p : Plan Response) : Prop where
  tells : p.Tells (fun told _ response => Shows P told response) [] []

theorem places_respond {α : Type} {a : Action α} {present : α → Response}
    (tells : a.Tells (fun told _ answer => Shows P told (match answer with
      | .ok r => present r
      | .error e => .ofError e)) [] []) : Places P (respond a present) := ⟨tells_respond tells⟩

theorem places_inquiry (d : Desk) (inquiry : Inquiry) {present : inquiry.Result → Response}
    (plain : ∀ found, ∀ v ∈ (present found).items, v.coordinates = []) :
    Places P (respond (d.inquire inquiry) present) := by
  apply places_respond
  refine (d.tells_inquire inquiry).mono fun told taken answer quiet => ?_
  cases answer with
  | ok found => exact shows_quiet quiet fun v member placed => absurd (plain found v member) placed
  | error e => exact shows_error quiet e

def Lists (told : List Exchange) (answer : Except BookingError (List Slot)) : Prop :=
  Quiet told ∧ ∀ rows, answer = .ok rows → ∃ x ∈ told, x.rows = rows

theorem lists_error (e : BookingError) : Lists [] (.error e) := ⟨quiet_nil, nofun⟩

theorem lists_answer {x : Exchange} {a : Except StoreError (List Slot)} (reads : x.call.reads = true)
    (found : ∀ rows, a = .ok rows → x.rows = rows) : Lists [x] (a.mapError BookingError.ofStore) := by
  refine ⟨quiet_nil.snoc reads, fun rows answered => ?_⟩
  cases a with
  | error e => cases answered
  | ok listed =>
    cases answered
    exact ⟨x, List.mem_singleton_self x, found _ rfl⟩

theorem tells_myAppointments (d : Desk) (queue : Id) (weekday : UInt8) (caller : Caller) :
    (d.myAppointments queue weekday caller).Tells (fun told _ answer => Lists told answer) [] [] := by
  unfold myAppointments
  refine Action.tells_check (fun _ _ => ?_) fun e _ => lists_error e
  refine Action.tells_check (fun w _ => ?_) fun e _ => lists_error e
  exact ⟨fun a => lists_answer rfl (by rintro rows rfl; rfl)⟩

theorem tells_appointmentsForDay (d : Desk) (queue : Id) (weekday : UInt8) (caller : Caller) :
    (d.appointmentsForDay queue weekday caller).Tells (fun told _ answer => Lists told answer) [] [] := by
  unfold appointmentsForDay
  split
  · refine Action.tells_check (fun w _ => ?_) fun e _ => lists_error e
    exact ⟨fun a => lists_answer rfl (by rintro rows rfl; rfl)⟩
  · exact d.tells_myAppointments queue weekday caller

theorem places_listing {a : Action (List Slot)} (listed : a.Tells (fun told _ answer => Lists told answer) [] []) :
    Places P (respond a (presentList Slot.toJson)) := by
  apply places_respond
  refine listed.mono fun told taken answer listed => ?_
  obtain ⟨quiet, listed⟩ := listed
  cases answer with
  | error e => exact shows_error quiet e
  | ok rows =>
    refine shows_quiet quiet fun v member _ => ?_
    obtain ⟨row, among, same⟩ := List.mem_map.mp member
    obtain ⟨x, heard, rfl⟩ := listed rows rfl
    exact ⟨x, heard, row, among, same.symm⟩

variable (d : Desk)

theorem places_claim (queue : Id) (weekday : UInt8) (timeslot : UInt32) (caller : Caller) :
    Places P (d.dispatch (.claimTimeslot queue weekday timeslot caller)) := by
  apply places_respond
  refine (d.tells_claimTimeslot queue weekday timeslot caller).mono fun told taken answer performs => ?_
  cases performs with
  | refused quiet => exact shows_error quiet _
  | claimed quiet bounds found ahead known =>
    rename_i a
    refine shows_last quiet (fun _ => True.intro) fun v member _ => ?_
    cases a with
    | ok row => exact ⟨row, List.mem_singleton_self row, List.mem_singleton.mp member⟩
    | error e => cases member

section

variable {draft : Draft} (origin : P .zero) (submitted : ∀ x ∈ draft.coordinates, P x)

include origin submitted

theorem places_booking (queue : Id) (weekday : UInt8) (timeslot : UInt32) (caller : Caller) :
    Places P (d.dispatch (.signup queue weekday timeslot caller draft)) := by
  apply places_respond
  refine (d.tells_signup queue weekday timeslot draft caller).mono fun told taken answer performs => ?_
  cases performs with
  | refused quiet => exact shows_error quiet _
  | signed quiet bounds found ahead known texts =>
    rename_i a
    refine shows_last quiet (fun _ => Rules.located_details texts origin submitted) fun v member _ => ?_
    cases a with
    | ok row => exact ⟨row, List.mem_singleton_self row, List.mem_singleton.mp member⟩
    | error e => cases member

theorem places_update (appointment : Id) (caller : Caller) :
    Places P (d.dispatch (.updateAppointment appointment caller draft)) := by
  apply places_respond
  refine (d.tells_updateAppointment appointment draft caller).mono fun told taken answer story => ?_
  cases story with
  | refused quiet => exact shows_error quiet _
  | edited quiet texts =>
    rename_i a
    refine shows_last quiet (fun _ => Rules.located_details texts origin submitted) ?_
    cases a <;> exact List.forall_mem_nil _
  | full quiet => exact shows_last quiet nofun (List.forall_mem_nil _)
  | moved quiet fetched replaces known found =>
    rename_i told current new created w schedule capacity a
    have placed := Rules.located_details replaces.texts origin submitted
    refine ⟨List.forall_mem_append.mpr ⟨located_of_quiet quiet, ?_⟩, fun v member _ => ?_⟩
    · exact List.forall_mem_cons.mpr ⟨fun _ => placed, List.forall_mem_singleton.mpr fun _ => True.intro⟩
    · cases a with
      | ok gone =>
        exact ⟨⟨.insert new ⟨w, capacity, none⟩, .ok created⟩, List.mem_append_right _ List.mem_cons_self, created,
          List.mem_singleton_self _, List.mem_singleton.mp member⟩
      | error cause => cases member

theorem places_publication (queue : Id) (weekday : UInt8) (caller : Caller) :
    Places P (d.dispatch (.publishOpenSlots queue weekday caller draft)) := by
  apply places_respond
  refine (d.tells_publishes queue weekday draft caller).mono fun told taken answer story => ?_
  cases story with
  | refused quiet => exact shows_error quiet _
  | asked quiet admin texts bounds stored seen enough =>
    rename_i a
    refine shows_last quiet (fun _ slot among => ?_) fun v member placed => ?_
    · obtain ⟨place, _, id, rfl⟩ := exists_of_mem_zipWith among
      exact Rules.located_details texts origin submitted
    · cases a with
      | ok count =>
        cases List.mem_singleton.mp member
        exact absurd (by simp [Json.coordinates]) placed
      | error e => cases member

end

theorem places_removal (appointment : Id) (caller : Caller) :
    Places P (d.dispatch (.removeSignup appointment caller)) := by
  apply places_respond
  refine (d.tells_removeSignup appointment caller).mono fun told taken answer story => ?_
  cases story with
  | refused quiet => exact shows_error quiet _
  | vacated quiet => exact shows_quiet quiet (List.forall_mem_nil _)
  | released quiet fetched ahead =>
    rename_i a
    refine shows_last quiet (fun _ => True.intro) ?_
    cases a with
    | ok gone => cases gone <;> exact List.forall_mem_nil _
    | error e => exact List.forall_mem_nil _

theorem places_replacement (queue : Id) (weekday : UInt8) (caller : Caller) (body : ScheduleBody) :
    Places P (d.dispatch (.updateSchedule queue weekday caller body)) := by
  apply places_respond
  unfold submitSchedule
  refine Action.tells_check (fun capacities _ => ?_) fun e _ => shows_error quiet_nil e
  refine (d.tells_reschedules queue weekday body.duration capacities caller).mono fun told taken answer story => ?_
  cases story with
  | refused quiet => exact shows_error quiet _
  | replaced quiet admin bounds valid =>
    rename_i a
    refine shows_last quiet (fun _ => True.intro) ?_
    cases a <;> exact List.forall_mem_nil _

theorem places_dispatch {r : Request} (origin : P .zero) (submitted : ∀ x ∈ r.coordinates, P x) :
    Places P (d.dispatch r) := by
  have listed : ∀ {α : Type} {toJson : α → Json}, (∀ a, (toJson a).coordinates = []) → ∀ found : List α,
      ∀ v ∈ (presentList toJson found).items, v.coordinates = [] := by
    intro α toJson plain found v member
    obtain ⟨a, _, rfl⟩ := List.mem_map.mp member
    exact plain a
  have schedules (s : Schedule) : s.toJson.coordinates = [] := by simp [Schedule.toJson, Json.coordinates]
  have seats (a : Availability) : a.toJson.coordinates = [] := by simp [Availability.toJson, Json.coordinates]
  have own {draft : Draft} (brought : r.draft? = some draft) : ∀ x ∈ draft.coordinates, P x := fun x member =>
    submitted x (List.mem_flatMap.mpr ⟨draft, Option.mem_toList.mpr brought, member⟩)
  cases r with
  | appointmentsForDay queue weekday caller => exact places_listing (d.tells_appointmentsForDay queue weekday caller)
  | myAppointments queue weekday caller => exact places_listing (d.tells_myAppointments queue weekday caller)
  | schedule queue weekday =>
    cases weekday with
    | some weekday =>
      refine d.places_inquiry (.scheduleForDay queue weekday) fun schedule v member => ?_
      cases List.mem_singleton.mp member
      exact schedules schedule
    | none => exact d.places_inquiry (.schedules queue) (listed schedules)
  | timeslotAvailability queue weekday => exact d.places_inquiry (.timeslotAvailability queue weekday) (listed seats)
  | claimTimeslot queue weekday timeslot caller => exact d.places_claim queue weekday timeslot caller
  | signup queue weekday timeslot caller draft => exact d.places_booking origin (own rfl) queue weekday timeslot caller
  | updateAppointment appointment caller draft => exact d.places_update origin (own rfl) appointment caller
  | removeSignup appointment caller => exact d.places_removal appointment caller
  | updateSchedule queue weekday caller body => exact d.places_replacement queue weekday caller body
  | publishOpenSlots queue weekday caller draft => exact d.places_publication origin (own rfl) queue weekday caller

theorem places_handleLine (explain : String → String) {line : String} (origin : P .zero)
    (submitted : ∀ r, Request.ofText? line = some r → ∀ x ∈ r.coordinates, P x) :
    Places P (d.handleLine explain line) := by
  unfold handleLine
  cases read : Request.ofText? line with
  | some r => exact d.places_dispatch origin (submitted r read)
  | none => exact ⟨shows_quiet quiet_nil (List.forall_mem_nil _)⟩

end Desk

namespace Service

/-- The rows lie at places with the property, and so do those that the requests under way were shown. -/
structure Placed (P : Bookings.Single → Prop) (s : Service) (plans : List (Plan Response)) : Prop where
  rows : s.store.register.Located P
  plans : ∀ (i : Nat) (p : Plan Response), plans[i]? = some p → ∃ told taken,
    p.Tells (fun told _ response => Desk.Shows P told response) told taken ∧
      ∀ x ∈ told, ∀ row ∈ x.rows, row.details.Located P

variable {ids : Nat → Id} {zone : Zone} {faults : Faults} {s : Service} {plans : List (Plan Response)} {i : Nat}

theorem Placed.located_answered {c : Call} {next : c.Answer → Plan Response} (placed : Placed P s plans)
    (chosen : plans[i]? = some (.ask c next)) (faults : Faults) :
    (s.store.answerWith faults c).2.register.Located P ∧
      ∀ row ∈ (⟨c, (s.store.answerWith faults c).1⟩ : Exchange).rows, row.details.Located P := by
  obtain ⟨told, taken, tells, _⟩ := placed.plans i _ chosen
  -- What the plan stores is known of its ends, so the call is judged from any end that it still has.
  obtain ⟨more, drawn, response, shows⟩ := (tells (s.store.answerWith faults c).1).exists_end
  refine Store.located_answerWith placed.rows faults (shows.located ⟨c, (s.store.answerWith faults c).1⟩ ?_)
  exact List.mem_append_left _ (List.mem_append_right _ (List.mem_singleton_self _))

theorem Placed.step {p : Plan Response} (placed : Placed P s plans) (chosen : plans[i]? = some p) :
    Placed P (p.step (world ids faults) s).2 (plans.set i (p.step (world ids faults) s).1) := by
  constructor
  · cases p with
    | done response => exact placed.rows
    | mint next => exact placed.rows
    | ask c next => exact (placed.located_answered chosen faults).1
  · intro j q found
    by_cases own : i = j
    · subst own
      rw [List.getElem?_set_self (List.getElem?_eq_some_iff.mp chosen).1] at found
      cases found
      obtain ⟨told, taken, tells, located⟩ := placed.plans i p chosen
      obtain ⟨drawn, later⟩ := tells.step (world ids faults) s
      refine ⟨_, _, later, fun x heard => ?_⟩
      rcases List.mem_append.mp heard with old | new
      · exact located x old
      · cases p with
        | done response => cases new
        | mint next => cases new
        | ask c next =>
          cases List.mem_singleton.mp new
          exact (placed.located_answered chosen faults).2
    · rw [List.getElem?_set_ne own] at found
      exact placed.plans j q found

theorem Placed.interleave (placed : Placed P s plans) (ids : Nat → Id) (faults : Faults) (turns : List Nat) :
    Placed P (Plan.interleave (world ids faults) turns plans s).2
      (Plan.interleave (world ids faults) turns plans s).1 := by
  induction turns generalizing s plans with
  | nil => exact placed
  | cons i turns ih =>
    rw [Plan.interleave]
    cases chosen : plans[i]? with
    | none => exact ih placed
    | some p => exact ih (placed.step chosen)

theorem placed_start {disk : Log.Disk} (blank : disk.bytes = []) (explain : String → String)
    {lines : List (Instant × String)}
    (origin : P .zero) (submitted : ∀ a ∈ lines, ∀ r, Request.ofText? a.2 = some r → ∀ x ∈ r.coordinates, P x) :
    Placed P (start disk) (lines.map fun a => (Desk.mk zone a.1).handleLine explain a.2) := by
  constructor
  · intro queue row member
    rw [register_start blank, Register.rows_empty] at member
    cases member
  · intro j p chosen
    rw [List.getElem?_map, Option.map_eq_some_iff] at chosen
    obtain ⟨a, sent, rfl⟩ := chosen
    have places := (Desk.mk zone a.1).places_handleLine explain origin (submitted a (List.mem_of_getElem? sent))
    exact ⟨[], [], places.tells, List.forall_mem_nil _⟩

/-- A line submits the coordinate by a numeral that lies at or behind the middle of the gap behind the largest numbers
of 32 bits. -/
def Oversized (lines : List (Instant × String)) (x : Bookings.Single) : Prop :=
  ∃ a ∈ lines, ∃ v r n, Json.ofText? a.2 = some v ∧ Request.ofJson? v = some r ∧ x ∈ r.coordinates ∧ v.Holds n ∧
    n.toSingle = x ∧ ¬ n.Narrow

theorem finite_or_oversized {lines : List (Instant × String)} {a : Instant × String} (sent : a ∈ lines) {r : Request}
    (read : Request.ofText? a.2 = some r) {x : Bookings.Single} (submitted : x ∈ r.coordinates) :
    x.isFinite = true ∨ Oversized lines x := by
  obtain ⟨v, text, request⟩ := Option.bind_eq_some_iff.mp read
  obtain ⟨n, held, rfl⟩ := Request.exists_numeral request submitted
  by_cases narrow : n.Narrow
  · exact .inl (n.isFinite_toSingle_iff.mpr narrow)
  · exact .inr ⟨a, sent, v, r, n, text, request, submitted, held, rfl, narrow⟩

/-- Lines are handled from an empty log, in any turns. Every stored coordinate is finite, but for those that a line
submitted by an oversized numeral; and every slot in a response has numbers for coordinates and is read back as it is,
unless one of them was submitted so. -/
theorem coordinates_are_finite_unless_oversized {disk : Log.Disk} (blank : disk.bytes = [])
    (explain : String → String) (lines : List (Instant × String)) (faults : Faults) (turns : List Nat) :
    let after := Plan.interleave (world ids faults) turns
      (lines.map fun a => (Desk.mk zone a.1).handleLine explain a.2) (start disk)
    (∀ queue, ∀ row ∈ after.2.store.register.rows queue, ∀ x ∈ row.details.coordinates,
      x.isFinite = true ∨ Oversized lines x) ∧
      ∀ (i : Nat) (response : Response) (v : Json), after.1[i]? = some (.done response) → v ∈ response.items →
        v.coordinates ≠ [] → ∃ row : Slot, v = row.toJson ∧
          ((∃ x ∈ row.details.coordinates, x.isFinite = false ∧ Oversized lines x) ∨
            (∀ c ∈ v.coordinates, ∃ d : Double, c = .float d ∧ d.isFinite = true) ∧ Slot.ofJson? v = some row) := by
  intro after
  have started : Placed (fun x => x.isFinite = true ∨ Oversized lines x) (start disk)
      (lines.map fun a => (Desk.mk zone a.1).handleLine explain a.2) :=
    placed_start blank explain (.inl (by decide)) fun a sent r read x submitted => finite_or_oversized sent read submitted
  obtain ⟨rows, plans⟩ := started.interleave ids faults turns
  refine ⟨rows, fun i response v answered member placed => ?_⟩
  obtain ⟨told, taken, shows, located⟩ := plans i _ answered
  obtain ⟨x, heard, row, shown, rfl⟩ := Desk.Shows.rows shows v member placed
  refine ⟨row, rfl, ?_⟩
  by_cases finite : ∀ x ∈ row.details.coordinates, x.isFinite = true
  · refine .inr ⟨fun c carried => ?_, Slot.ofJson?_toJson finite⟩
    rw [Slot.coordinates_toJson] at carried
    obtain ⟨x, own, rfl⟩ := List.mem_map.mp carried
    obtain ⟨d, number, bounded, _⟩ := Json.exists_of_finite (finite x own)
    exact ⟨d, number, bounded⟩
  · left
    simp only [not_forall, Bool.not_eq_true] at finite
    obtain ⟨x, own, infinite⟩ := finite
    refine ⟨x, own, infinite, (located _ heard row shown x own).resolve_left ?_⟩
    rw [infinite]
    exact Bool.false_ne_true

def farPin : List (Instant × String) :=
  [(1700006400000, "[\"update_schedule\",\"00000000000000000000000007\",3,[\"staff@x.edu\",true]," ++
      "[60,\"111111111111\"]]"),
    (1700006400000, "[\"signup\",\"00000000000000000000000007\",3,10,[\"ada@x.edu\"]," ++
      "[null,\"Ada\",\"limits\",\"room 1\",2.5,-7]]"),
    (1700006400000, "[\"signup\",\"00000000000000000000000007\",3,11,[\"bob@x.edu\"]," ++
      "[null,\"Bob\",\"series\",\"room 2\",1e39,0.5]]")]

def afterFarPin : List (Plan Response) × Service :=
  Plan.interleave (world (fun n => Id.ofNat (n + 1)) noFaults) ((List.range 3).flatMap (List.replicate 8))
    (farPin.map fun a => (Desk.mk Zone.utc a.1).handleLine (fun _ => "") a.2) (start {})

theorem afterFarPin_coordinates :
    (afterFarPin.2.store.register.rows (Id.ofNat 7)).map (fun row => row.details.coordinates) =
        [[⟨0x40200000⟩, ⟨0xc0e00000⟩], [⟨0x7f800000⟩, ⟨0x3f000000⟩]] ∧
      afterFarPin.1.map (fun p => p.answer?.map fun r =>
        r.items.map fun v => (v.coordinates.map Json.text, (Slot.ofJson? v).isSome)) =
        [some [], some [(["2.5", "-7.0"], true)], some [(["null", "0.5"], false)]] := by decide +kernel

theorem coordinates_are_finite_unless_oversized_farPin :
    Oversized farPin ⟨0x7f800000⟩ ∧ ∃ (response : Response) (row : Slot),
      afterFarPin.1[1]? = some (.done response) ∧ response.items = [row.toJson] ∧
        (∀ c ∈ row.toJson.coordinates, ∃ d : Double, c = .float d ∧ d.isFinite = true) ∧
          Slot.ofJson? row.toJson = some row := by
  have run : Plan.interleave (world (fun n => Id.ofNat (n + 1)) noFaults) ((List.range 3).flatMap (List.replicate 8))
      (farPin.map fun a => (Desk.mk Zone.utc a.1).handleLine (fun _ => "") a.2) (start {}) = afterFarPin := rfl
  have whole := @coordinates_are_finite_unless_oversized (fun n => Id.ofNat (n + 1)) Zone.utc {} rfl (fun _ => "") farPin
    noFaults ((List.range 3).flatMap (List.replicate 8))
  rw [run] at whole
  obtain ⟨rows, slots⟩ := whole
  obtain ⟨stored, shown⟩ := afterFarPin_coordinates
  generalize afterFarPin = after at rows slots stored shown ⊢
  constructor
  · have far : [⟨0x7f800000⟩, ⟨0x3f000000⟩] ∈
        (after.2.store.register.rows (Id.ofNat 7)).map fun row => row.details.coordinates := by
      rw [stored]
      exact List.mem_cons_of_mem _ (List.mem_singleton_self _)
    obtain ⟨row, present, placed⟩ := List.mem_map.mp far
    refine (rows (Id.ofNat 7) row present ⟨0x7f800000⟩ ?_).resolve_left (by decide)
    rw [placed]
    exact List.mem_cons_self
  · have second := congrArg (fun answers => answers[1]?) shown
    rw [List.getElem?_map] at second
    obtain ⟨p, present, ended⟩ := Option.map_eq_some_iff.mp second
    cases p with
    | ask c next => cases ended
    | mint next => cases ended
    | done response =>
      obtain ⟨v, only, written⟩ := List.map_eq_singleton_iff.mp (Option.some.inj ended)
      have texts : v.coordinates.map Json.text = ["2.5", "-7.0"] := congrArg Prod.fst written
      have placed : v.coordinates ≠ [] := by
        intro none
        rw [none] at texts
        cases texts
      obtain ⟨row, rfl, oversized | read⟩ := slots 1 response v present (only ▸ List.mem_singleton_self v) placed
      · obtain ⟨x, own, infinite, _⟩ := oversized
        have null : Json.ofSingle x = .null := by
          rw [Json.ofSingle, Single.toDouble?, Option.not_isSome_iff_eq_none.mp (Bool.eq_false_iff.mp infinite)]
          rfl
        have shown : Json.null ∈ row.toJson.coordinates := by
          rw [Slot.coordinates_toJson]
          exact List.mem_map.mpr ⟨x, own, null⟩
        have absent := List.mem_map_of_mem shown (f := Json.text)
        rw [texts] at absent
        exact absurd absent (by decide)
      · exact ⟨response, row, present, only, read⟩

theorem oversized_coordinate_is_stored :
    (afterFarPin.2.store.register.rows (Id.ofNat 7)).map (fun row => row.details.coordinates.map Single.isFinite) =
        [[true, true], [false, true]] ∧
      afterFarPin.1[2]?.map (fun p => p.answer?.map fun r =>
        r.items.map fun v => (v.coordinates.map Json.text, (Slot.ofJson? v).isSome)) =
        some (some [(["null", "0.5"], false)]) := by
  obtain ⟨stored, shown⟩ := afterFarPin_coordinates
  constructor
  · have each := congrArg (List.map (List.map Bookings.Single.isFinite)) stored
    rw [List.map_map] at each
    exact each.trans (by decide)
  · have third := congrArg (fun answers => answers[2]?) shown
    rw [List.getElem?_map] at third
    exact third

end Service

end Bookings
