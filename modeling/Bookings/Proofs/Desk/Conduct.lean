import Bookings.Proofs.Desk.Lawful
import Bookings.Proofs.Desk.Refusals
import Bookings.Protocol.Dispatch

namespace Bookings

def Request.caller? : Request → Option Caller
  | .appointmentsForDay _ _ caller => some caller
  | .myAppointments _ _ caller => some caller
  | .schedule _ _ => none
  | .timeslotAvailability _ _ => none
  | .claimTimeslot _ _ _ caller => some caller
  | .signup _ _ _ caller _ => some caller
  | .updateAppointment _ caller _ => some caller
  | .removeSignup _ caller => some caller
  | .updateSchedule _ _ caller _ => some caller
  | .publishOpenSlots _ _ caller _ => some caller

def Operation.request : Operation → Request
  | .claimTimeslot queue weekday timeslot caller => .claimTimeslot queue weekday timeslot caller
  | .signup queue weekday timeslot draft caller => .signup queue weekday timeslot caller draft
  | .updateAppointment appointment draft caller => .updateAppointment appointment caller draft
  | .removeSignup appointment caller => .removeSignup appointment caller
  | .updateSchedule queue weekday duration capacities caller =>
    .updateSchedule queue weekday caller ⟨duration, capacities.text⟩
  | .publishOpenSlots queue weekday template caller => .publishOpenSlots queue weekday caller template

def Operation.present : (op : Operation) → op.Result → Response
  | .claimTimeslot .., slot => .withBody .created slot.toJson
  | .signup .., slot => .withBody .created slot.toJson
  | .updateAppointment .., update => Desk.presentUpdate update
  | .removeSignup .., removal => Desk.presentRemoval removal
  | .updateSchedule .., _ => .empty .noContent
  | .publishOpenSlots .., count => .withBody .created (.obj [("published", .nat count)])

/-- An answer as a sound state gives it: a schedule was accepted, and a row has a length. -/
def Call.Credible : (c : Call) → c.Answer → Prop
  | .scheduleFor _ _, .ok (some schedule) => schedule.validate = .ok ()
  | .fetch _, .ok row => 1 ≤ row.duration.toNat
  | _, _ => True

theorem Store.credible_answerWith {s : Store} {z : Zone} (sound : s.register.Sound z) (faults : Faults) (c : Call) :
    c.Credible (s.answerWith faults c).1 := by
  cases c with
  | scheduleFor queue weekday =>
    cases answered : (s.answerWith faults (.scheduleFor queue weekday)).1 with
    | error e => exact True.intro
    | ok found =>
      cases found with
      | none => exact True.intro
      | some schedule => exact sound.valid queue weekday schedule (scheduleFor_eq_ok answered).symm
  | fetch id =>
    cases answered : (s.answerWith faults (.fetch id)).1 with
    | error e => exact True.intro
    | ok row => exact duration_of_fetch sound answered
  | _ => exact True.intro

/-- As long as it is told what is credible, a plan makes lawful calls only, and the rows that it brings have all the
identifiers that it took and did not use yet. Schedules that it has heard of may have been replaced since. -/
def Plan.Lawful {α : Type} (z : Zone) (post : List Id → α → Prop) : List Id → Plan α → Prop
  | taken, .done a => post taken a
  | taken, .ask c next =>
    c.Lawful z ∧ (c.newIds = [] ∨ c.newIds.Perm taken) ∧
      ∀ a, c.Credible a → (next a).Lawful z post (if c.newIds = [] then taken else [])
  | taken, .mint next => ∀ id, (next id).Lawful z post (id :: taken)

structure Plan.Proper {α : Type} (z : Zone) (taken : List Id) (p : Plan α) : Prop where
  lawful : p.Lawful z (fun _ _ => True) taken

structure Action.Lawful {α : Type} (z : Zone) (post : List Id → α → Prop) (taken : List Id) (x : Action α) : Prop where
  run : Plan.Lawful z (fun taken answer => match answer with
    | .ok a => post taken a
    | .error _ => True) taken (ExceptT.run x)

namespace Plan

variable {α β : Type} {z : Zone} {taken drawn : List Id}

theorem lawful_bind {post : List Id → β → Prop} {p : Plan α} {f : α → Plan β} :
    (p.bind f).Lawful z post taken ↔ p.Lawful z (fun taken a => (f a).Lawful z post taken) taken := by
  induction p generalizing taken with
  | done a => exact Iff.rfl
  | ask c next ih => simp only [Plan.bind, Lawful, ih]
  | mint next ih => simp only [Plan.bind, Lawful, ih]

theorem Lawful.mono {post weaker : List Id → α → Prop} {p : Plan α} (lawful : p.Lawful z post taken)
    (weakens : ∀ taken a, post taken a → weaker taken a) : p.Lawful z weaker taken := by
  induction p generalizing taken with
  | done a => exact weakens _ _ lawful
  | ask c next ih =>
    obtain ⟨allowed, spends, rest⟩ := lawful
    exact ⟨allowed, spends, fun a credible => ih a (rest a credible)⟩
  | mint next ih => exact fun id => ih id (lawful id)

theorem lawful_mintEach {γ : Type} {post : List Id → List β → Prop} {f : γ → Id → β} {items : List γ} {made : List β}
    (minted : ∀ ids : List Id, ids.length = items.length →
      post (ids.reverse ++ taken) (made.reverse ++ items.zipWith f ids)) :
    (mintEach f made items).Lawful z post taken := by
  induction items generalizing made taken with
  | nil => simpa [mintEach, Lawful] using minted [] rfl
  | cons item items ih =>
    intro id
    apply ih
    intro ids enough
    have result := minted (id :: ids) (by rw [List.length_cons, List.length_cons, enough])
    simpa using result

theorem quiet_of_tells {told : List Exchange} {p : Plan α} (tells : p.Tells (fun told _ _ => Quiet told) told taken) :
    Quiet told := by
  obtain ⟨more, _, _, quiet⟩ := tells.exists_end
  exact fun x member => quiet x (List.mem_append_left more member)

theorem lawful_of_quiet {told : List Exchange} {p : Plan α} (tells : p.Tells (fun told _ _ => Quiet told) told drawn) :
    p.Lawful z (fun _ _ => True) taken := by
  induction p generalizing told drawn taken with
  | done a => exact True.intro
  | ask c next ih =>
    have reads : c.reads = true :=
      quiet_of_tells (tells (.error (.notFound default))) _ (List.mem_append_right _ List.mem_cons_self)
    exact ⟨Call.lawful_of_reads reads, .inl (Call.newIds_of_reads reads), fun a _ => ih a (tells a)⟩
  | mint next ih => exact fun id => ih id (tells id)

end Plan

namespace Action

variable {α β : Type} {z : Zone} {post : List Id → β → Prop} {taken : List Id}

theorem lawful_pure {b : β} (holds : post taken b) : (pure b : Action β).Lawful z post taken := ⟨holds⟩

theorem lawful_fail {e : BookingError} : (fail e : Action β).Lawful z post taken := ⟨True.intro⟩

theorem lawful_bind {x : Action α} {f : α → Action β}
    (first : x.Lawful z (fun taken a => (f a).Lawful z post taken) taken) : (x >>= f).Lawful z post taken := by
  have unfolded : ExceptT.run (x >>= f) = (ExceptT.run x).bind (ExceptT.bindCont f) := rfl
  constructor
  rw [unfolded, Plan.lawful_bind]
  refine Plan.Lawful.mono first.run ?_
  intro taken answer holds
  cases answer with
  | ok a => exact holds.run
  | error e => exact True.intro

theorem lawful_check {r : Except BookingError α} {f : α → Action β}
    (passed : ∀ a, r = .ok a → (f a).Lawful z post taken) : (check r >>= f).Lawful z post taken := by
  apply lawful_bind
  cases h : r with
  | ok a => exact ⟨passed a h⟩
  | error e => exact ⟨True.intro⟩

theorem lawful_call (c : Call) {post : List Id → c.Result → Prop} (allowed : c.Lawful z)
    (spends : c.newIds = [] ∨ c.newIds.Perm taken)
    (answered : ∀ a, c.Credible (.ok a) → post (if c.newIds = [] then taken else []) a) :
    (call c).Lawful z post taken := by
  refine ⟨⟨allowed, spends, ?_⟩⟩
  intro a credible
  cases a with
  | ok a => exact answered a credible
  | error e => exact True.intro

theorem lawful_attempt {c : Call} {f : c.Answer → Action β} (allowed : c.Lawful z) (plain : c.newIds = [])
    (answered : ∀ a, (f a).Lawful z post taken) : (attempt c >>= f).Lawful z post taken := by
  apply lawful_bind
  refine ⟨⟨allowed, .inl plain, ?_⟩⟩
  intro a credible
  rw [if_pos plain]
  exact answered a

theorem lawful_ask {c : Call} {f : c.Result → Action β} (allowed : c.Lawful z) (plain : c.newIds = [])
    (answered : ∀ a, c.Credible (.ok a) → (f a).Lawful z post taken) : (call c >>= f).Lawful z post taken := by
  apply lawful_bind
  apply lawful_call c allowed (.inl plain)
  rw [if_pos plain]
  exact answered

theorem lawful_read {c : Call} {f : c.Result → Action β} (reads : c.reads = true)
    (answered : ∀ a, c.Credible (.ok a) → (f a).Lawful z post taken) : (call c >>= f).Lawful z post taken :=
  lawful_ask (Call.lawful_of_reads reads) (Call.newIds_of_reads reads) answered

theorem lawful_newId {f : Id → Action β} (minted : ∀ id, (f id).Lawful z post (id :: taken)) :
    (newId >>= f).Lawful z post taken := lawful_bind ⟨minted⟩

theorem lawful_mintEach {γ : Type} {f : γ → Id → α} {items : List γ} {g : List α → Action β}
    (minted : ∀ ids : List Id, ids.length = items.length → (g (items.zipWith f ids)).Lawful z post (ids.reverse ++ taken)) :
    (mintEach f items >>= g).Lawful z post taken := by
  apply lawful_bind
  constructor
  rw [mintEach, ExceptT.run_mk, Plan.lawful_bind]
  exact Plan.lawful_mintEach minted

end Action

namespace Desk

variable {β : Type} {d : Desk} {post : List Id → β → Prop} {taken : List Id}

theorem lawful_requireSchedule {queue : Id} {weekday : UInt8} {f : Schedule → Action β}
    (stored : ∀ schedule, schedule.validate = .ok () → (f schedule).Lawful d.zone post taken) :
    (requireSchedule queue weekday >>= f).Lawful d.zone post taken := by
  apply Action.lawful_bind
  rw [requireSchedule]
  refine Action.lawful_read rfl fun found credible => ?_
  cases found with
  | none => exact Action.lawful_fail
  | some schedule => exact Action.lawful_pure (stored schedule credible)

theorem lawful_timeslotCapacity {queue : Id} {weekday : UInt8} {timeslot : UInt32} {f : Schedule × Nat → Action β}
    (stored : ∀ schedule capacity, schedule.validate = .ok () → timeslot.toNat < schedule.timeslots →
      (f (schedule, capacity)).Lawful d.zone post taken) :
    (timeslotCapacity queue weekday timeslot >>= f).Lawful d.zone post taken := by
  apply Action.lawful_bind
  rw [timeslotCapacity]
  refine lawful_requireSchedule fun schedule valid => ?_
  cases seats : schedule.capacityAt timeslot with
  | none => exact Action.lawful_fail
  | some capacity => exact Action.lawful_pure (stored schedule capacity valid (Schedule.lt_timeslots seats))

theorem lawful_ensureRoom {queue : Id} {w : Span} {timeslot : UInt32} {capacity : Nat} {f : Unit → Action β}
    (room : (f ()).Lawful d.zone post taken) :
    (ensureRoom queue w timeslot capacity >>= f).Lawful d.zone post taken := by
  apply Action.lawful_bind
  rw [ensureRoom]
  refine Action.lawful_read rfl fun rows _ => ?_
  split
  · exact Action.lawful_pure room
  · exact Action.lawful_fail

theorem lawful_claimTimeslot (d : Desk) (queue : Id) (weekday : UInt8) (timeslot : UInt32) (caller : Caller) :
    (d.claimTimeslot queue weekday timeslot caller).Lawful d.zone (fun _ _ => True) [] := by
  rw [claimTimeslot]
  refine Action.lawful_check fun _ known => Action.lawful_check fun w window => ?_
  refine lawful_timeslotCapacity fun schedule capacity valid present => ?_
  refine Action.lawful_check fun _ ahead => ?_
  exact Action.lawful_call (.claim queue w timeslot capacity caller.email)
    (Call.lawful_of_plain (Rules.caller_eq_ok known) rfl) (.inl rfl) fun _ _ => True.intro

theorem lawful_signup (d : Desk) (queue : Id) (weekday : UInt8) (timeslot : UInt32) (draft : Draft) (caller : Caller) :
    (d.signup queue weekday timeslot draft caller).Lawful d.zone (fun _ _ => True) [] := by
  rw [signup]
  refine Action.lawful_check fun _ known => Action.lawful_check fun details texts => ?_
  refine Action.lawful_check fun w window => lawful_timeslotCapacity fun schedule capacity valid present => ?_
  refine lawful_ensureRoom (Action.lawful_read rfl fun rows _ => ?_)
  cases rows with
  | cons existing rest => exact Action.lawful_fail
  | nil =>
    refine Action.lawful_check fun _ ahead => Action.lawful_newId fun id => ?_
    have bounds := window_eq_ok window
    refine Action.lawful_call (.insert _ _) ⟨?_, ?_⟩ (.inr (List.Perm.refl _)) fun _ _ => True.intro
    · refine ⟨⟨_, Slot.fitsDay_of_schedule bounds valid present rfl rfl⟩, Rules.details_eq_ok texts, ?_⟩
      intro email held
      cases held
      exact Rules.caller_eq_ok known
    · intro slot brought
      cases List.mem_singleton.mp brought
      exact lt_farFuture bounds (Schedule.contains_startOf valid bounds present)

theorem lawful_move (d : Desk) (appointment : Id) {current : Slot} (timeslot : UInt32) {draft : Draft}
    {details : Details} {caller : Caller} (known : Rules.caller caller = .ok ())
    (texts : Rules.details draft = .ok details) (positive : 1 ≤ current.duration.toNat) :
    (d.move appointment current timeslot details caller).Lawful d.zone (fun _ _ => True) [] := by
  unfold move
  dsimp only
  cases bounds : weekdayBounds d.today d.now d.zone with
  | none => exact Action.lawful_fail
  | some w =>
    refine lawful_timeslotCapacity fun schedule capacity valid present => ?_
    dsimp only
    split
    · exact Action.lawful_fail
    · rename_i fits
      rw [Bool.not_eq_true, Bool.not_eq_false'] at fits
      refine Action.lawful_check fun _ ahead => lawful_ensureRoom (Action.lawful_newId fun id => ?_)
      apply Action.lawful_bind
      refine Action.lawful_call (.insert _ _) ⟨?_, ?_⟩ (.inr (List.Perm.refl _)) fun created _ => ?_
      · have early := Schedule.lt_minutesPerDay valid present
        refine ⟨⟨_, Slot.fitsDay_of_check bounds early rfl positive fits⟩, Rules.details_eq_ok texts, ?_⟩
        intro email held
        cases held
        exact Rules.caller_eq_ok known
      · intro slot brought
        cases List.mem_singleton.mp brought
        rw [fitsDay, Bool.and_eq_true] at fits
        exact lt_farFuture bounds fits.1
      · refine Action.lawful_attempt (Call.lawful_of_plain True.intro rfl) rfl fun released => ?_
        cases released with
        | ok _ => exact Action.lawful_pure True.intro
        | error cause => exact Action.lawful_fail

theorem lawful_updateAppointment (d : Desk) (appointment : Id) (draft : Draft) (caller : Caller) :
    (d.updateAppointment appointment draft caller).Lawful d.zone (fun _ _ => True) [] := by
  rw [updateAppointment]
  refine Action.lawful_check fun _ known => Action.lawful_read rfl fun current credible => ?_
  split
  · exact Action.lawful_fail
  · refine Action.lawful_check fun _ owned => Action.lawful_check fun details texts => ?_
    dsimp only
    split
    · exact Action.lawful_ask (Call.lawful_of_plain (Rules.details_eq_ok texts) rfl) rfl
        fun _ _ => Action.lawful_pure True.intro
    · apply Action.lawful_bind
      refine ⟨(d.lawful_move appointment _ known texts credible).run.mono ?_⟩
      intro taken answer _
      cases answer with
      | ok slot => exact Action.lawful_pure True.intro
      | error e => exact True.intro

theorem lawful_removeSignup (d : Desk) (appointment : Id) (caller : Caller) :
    (d.removeSignup appointment caller).Lawful d.zone (fun _ _ => True) [] := by
  rw [removeSignup]
  refine Action.lawful_check fun _ known => Action.lawful_read rfl fun current _ => ?_
  split
  · exact Action.lawful_pure True.intro
  · refine Action.lawful_check fun _ owned => Action.lawful_check fun _ ahead => ?_
    refine Action.lawful_ask (Call.lawful_of_plain True.intro rfl) rfl fun released _ => ?_
    split
    · exact Action.lawful_pure True.intro
    · exact Action.lawful_pure True.intro

theorem lawful_updateSchedule (d : Desk) (queue : Id) (weekday : UInt8) (duration : UInt32) (capacities : Capacities)
    (caller : Caller) :
    (d.updateSchedule queue weekday duration capacities caller).Lawful d.zone (fun _ _ => True) [] := by
  rw [updateSchedule]
  refine Action.lawful_check fun _ admin => Action.lawful_check fun w window => ?_
  refine Action.lawful_check fun _ checked => Action.lawful_read rfl fun rows _ => ?_
  split
  · exact Action.lawful_fail
  · exact Action.lawful_ask (Call.lawful_of_plain (eq_ok_of_mapError checked) rfl) rfl
      fun _ _ => Action.lawful_pure True.intro

theorem lawful_publishOpenSlots (d : Desk) (queue : Id) (weekday : UInt8) (template : Draft) (caller : Caller) :
    (d.publishOpenSlots queue weekday template caller).Lawful d.zone (fun _ _ => True) [] := by
  rw [publishOpenSlots]
  refine Action.lawful_check fun _ admin => Action.lawful_check fun details texts => ?_
  refine Action.lawful_check fun w window => lawful_requireSchedule fun schedule valid => ?_
  refine Action.lawful_read rfl fun rows _ => Action.lawful_mintEach fun ids enough => ?_
  have bounds := window_eq_ok window
  refine Action.lawful_call (.publish queue _) ⟨?_, ?_⟩ (.inr ?_) fun _ _ => True.intro
  · intro slot member
    obtain ⟨⟨timeslot, start⟩, missing, id, rfl⟩ := exists_of_mem_zipWith member
    obtain ⟨present, same⟩ := mem_missingSeats missing
    exact ⟨⟨_, Slot.fitsDay_of_schedule bounds valid present same rfl⟩, Rules.details_eq_ok texts⟩
  · intro slot member
    obtain ⟨⟨timeslot, start⟩, missing, id, rfl⟩ := exists_of_mem_zipWith member
    obtain ⟨present, same⟩ := mem_missingSeats missing
    rw [same]
    exact lt_farFuture bounds (Schedule.contains_startOf valid bounds present)
  · rw [Call.newIds, map_zipWith_right _ _ (fun _ _ => rfl) enough, List.append_nil]
    exact (List.reverse_perm ids).symm

theorem lawful_inquire (d : Desk) (inquiry : Inquiry) : (d.inquire inquiry).Lawful d.zone (fun _ _ => True) [] := by
  refine ⟨(Plan.lawful_of_quiet (d.tells_inquire inquiry).run).mono ?_⟩
  intro taken answer _
  cases answer with
  | ok r => exact True.intro
  | error e => exact True.intro

theorem tells_respond {α : Type} {a : Action α} {present : α → Response} {told : List Exchange} {taken : List Id}
    {post : List Exchange → List Id → Response → Prop}
    (tells : a.Tells (fun told taken answer => post told taken (match answer with
      | .ok r => present r
      | .error e => .ofError e)) told taken) : (respond a present).Tells post told taken := by
  rw [respond, Plan.tells_bind]
  refine tells.run.mono fun told taken answer holds => ?_
  cases answer <;> exact holds

theorem proper_respond {α : Type} {a : Action α} {present : α → Response}
    (lawful : a.Lawful d.zone (fun _ _ => True) []) : (respond a present).Proper d.zone [] := by
  constructor
  rw [respond, Plan.lawful_bind]
  refine lawful.run.mono ?_
  intro taken answer _
  cases answer with
  | ok r => exact True.intro
  | error e => exact True.intro

theorem lawful_perform (d : Desk) (op : Operation) : (d.perform op).Lawful d.zone (fun _ _ => True) [] := by
  cases op with
  | claimTimeslot queue weekday timeslot caller => exact d.lawful_claimTimeslot queue weekday timeslot caller
  | signup queue weekday timeslot draft caller => exact d.lawful_signup queue weekday timeslot draft caller
  | updateAppointment appointment draft caller => exact d.lawful_updateAppointment appointment draft caller
  | removeSignup appointment caller => exact d.lawful_removeSignup appointment caller
  | updateSchedule queue weekday duration capacities caller =>
    exact d.lawful_updateSchedule queue weekday duration capacities caller
  | publishOpenSlots queue weekday template caller => exact d.lawful_publishOpenSlots queue weekday template caller

/-- What becomes of a request: an inquiry, a refusal before the store is asked, or an operation of its caller. -/
inductive Carried (d : Desk) (r : Request) : Plan Response → Prop
  | inquired (inquiry : Inquiry) {present : inquiry.Result → Response} :
      Carried d r (respond (d.inquire inquiry) present)
  | refused {response : Response} : Carried d r (.done response)
  | performed (op : Operation) {present : op.Result → Response} (caller : r.caller? = some op.caller) :
      Carried d r (respond (d.perform op) present)

theorem carried (d : Desk) (r : Request) : d.Carried r (d.dispatch r) := by
  cases r with
  | appointmentsForDay queue weekday caller => exact .inquired (.appointmentsForDay queue weekday caller)
  | myAppointments queue weekday caller => exact .inquired (.myAppointments queue weekday caller)
  | schedule queue weekday =>
    cases weekday with
    | some weekday => exact .inquired (.scheduleForDay queue weekday)
    | none => exact .inquired (.schedules queue)
  | timeslotAvailability queue weekday => exact .inquired (.timeslotAvailability queue weekday)
  | claimTimeslot queue weekday timeslot caller =>
    exact .performed (.claimTimeslot queue weekday timeslot caller) rfl
  | signup queue weekday timeslot caller appointment =>
    exact .performed (.signup queue weekday timeslot appointment caller) rfl
  | updateAppointment id caller appointment => exact .performed (.updateAppointment id appointment caller) rfl
  | removeSignup id caller => exact .performed (.removeSignup id caller) rfl
  | updateSchedule queue weekday caller body =>
    cases read : Capacities.parse body.capacities with
    | error e =>
      have refused : d.dispatch (.updateSchedule queue weekday caller body) = .done (.ofError (.invalidSchedule e)) := by
        rw [dispatch, submitSchedule, read]
        rfl
      rw [refused]
      exact .refused
    | ok capacities =>
      have performed : d.dispatch (.updateSchedule queue weekday caller body) =
          respond (d.perform (.updateSchedule queue weekday body.duration capacities caller))
            fun _ => .empty .noContent := by
        rw [dispatch, submitSchedule, read]
        rfl
      rw [performed]
      exact .performed (.updateSchedule queue weekday body.duration capacities caller) rfl
  | publishOpenSlots queue weekday caller template =>
    exact .performed (.publishOpenSlots queue weekday template caller) rfl

theorem dispatch_request (d : Desk) (op : Operation) : d.dispatch op.request = respond (d.perform op) op.present := by
  cases op with
  | updateSchedule queue weekday duration capacities caller =>
    rw [Operation.request, dispatch, submitSchedule, Capacities.parse_text]
    rfl
  | _ => rfl

theorem proper_dispatch (d : Desk) (r : Request) : (d.dispatch r).Proper d.zone [] := by
  have carried := d.carried r
  generalize d.dispatch r = p at carried ⊢
  cases carried with
  | inquired inquiry => exact proper_respond (d.lawful_inquire inquiry)
  | refused => exact ⟨True.intro⟩
  | performed op caller => exact proper_respond (d.lawful_perform op)

end Desk

end Bookings
