import Bookings.Proofs.Desk.Authority
import Bookings.Proofs.Desk.Balance
import Bookings.Proofs.Store.Lifecycle

namespace Bookings

def Details.texts (d : Details) : List String := [d.name, d.description, d.location]

def Draft.texts (d : Draft) : List String := [d.name, d.description, d.location].filterMap id

def Request.texts : Request → List String
  | .signup _ _ _ _ draft => draft.texts
  | .updateAppointment _ _ draft => draft.texts
  | .publishOpenSlots _ _ _ template => template.texts
  | _ => []

/-- What a response shows: the items of its list, or its body. -/
def Response.items (r : Response) : List Json :=
  match r.body with
  | some (.arr items) => items
  | some body => [body]
  | none => []

def Json.texts : Json → List String
  | .obj members => members.filterMap fun (key, value) =>
    if key ∈ ["name", "description", "location"] then value.string? else none
  | _ => []

theorem Slot.mem_texts_toJson (s : Slot) (text : String) : text ∈ s.toJson.texts ↔ text ∈ s.details.texts := by
  simp [Slot.toJson, Json.texts, Details.texts, Json.string?]
  tauto

theorem Schedule.texts_toJson (s : Schedule) : s.toJson.texts = [] := by simp [Schedule.toJson, Json.texts]

theorem Availability.texts_toJson (a : Availability) : a.toJson.texts = [] := by simp [Availability.toJson, Json.texts]

namespace Rules

theorem required_kept {text : Option String} {field kept : String} (accepted : required text field = .ok kept) :
    ∃ sent, text = some sent ∧ Text.trim sent = kept := by
  unfold required at accepted
  dsimp only at accepted
  split at accepted
  · cases accepted
  · rename_i filled
    split at accepted
    · cases accepted
    · cases accepted
      cases text with
      | none => exact absurd (by decide) filled
      | some sent => exact ⟨sent, rfl, rfl⟩

theorem exists_sent {draft : Draft} {kept : Details} (accepted : details draft = .ok kept) {text : String}
    (stored : text ∈ kept.texts) : ∃ sent ∈ draft.texts, Text.trim sent = text := by
  have submitted : ∀ {part : Option String} {field kept : String},
      part ∈ [draft.name, draft.description, draft.location] → required part field = .ok kept →
        ∃ sent ∈ draft.texts, Text.trim sent = kept := by
    intro part field kept listed accepted
    obtain ⟨sent, rfl, same⟩ := required_kept accepted
    exact ⟨sent, List.mem_filterMap.mpr ⟨_, listed, rfl⟩, same⟩
  obtain ⟨name, description, location⟩ := details_fields accepted
  simp only [Details.texts, List.mem_cons, List.not_mem_nil, or_false] at stored
  rcases stored with rfl | rfl | rfl
  · exact submitted (by simp) name
  · exact submitted (by simp) description
  · exact submitted (by simp) location

end Rules

namespace Register

variable {r : Register} {c : Call} {e : Event} {a : c.Answer} {queue : Id} {row : Slot}

theorem mem_rows_change (distinct : (r.content e.queue).Distinct) (member : row ∈ (r.apply e).rows queue) :
    row ∈ e.created ∨ row ∈ r.rows queue ∨ ∃ old ∈ r.rows e.queue, e.target? = some old.id ∧ row = e.change old := by
  by_cases own : queue = e.queue
  · subst own
    rw [rows_apply_self, (Queue.rows_apply_perm distinct e).mem_iff] at member
    rcases List.mem_append.mp member with created | changed
    · exact .inl created
    · obtain ⟨old, present, rfl⟩ := List.mem_map.mp changed
      by_cases named : e.target? = some old.id
      · exact .inr (.inr ⟨old, present, named, rfl⟩)
      · rw [Event.change_of_other named]
        exact .inr (.inl present)
  · rw [rows_apply_other r e own] at member
    exact .inr (.inl member)

/-- Where a row after a call comes from: it was there, or it was inserted, edited or claimed by the call, or nobody
holds it. -/
theorem Admits.origin (admitted : r.Admits c e a) (orderly : r.Orderly) (member : row ∈ (r.apply e).rows queue) :
    row ∈ r.rows queue ∨ row.student = none ∨ (∃ guard, c = .insert row guard) ∨
      (∃ id email, c = .edit id email row.details ∧ row.student = some email) ∨
        ∃ queue w timeslot capacity email, (⟨c, a⟩ : Exchange) = ⟨.claim queue w timeslot capacity email, .ok row⟩ ∧
          row.student = some email := by
  rcases mem_rows_change (orderly.distinct e.queue) member with created | present | ⟨old, present, named, rfl⟩
  -- Only an insertion and a batch bring rows, and the rows of a batch are open.
  · cases admitted with
    | insert small room free =>
      cases List.mem_singleton.mp created
      exact .inr (.inr (.inl ⟨_, rfl⟩))
    | publish filled small =>
      obtain ⟨slot, _, rfl⟩ := List.mem_map.mp created
      exact .inr (.inl rfl)
    | _ => cases created
  · exact .inl present
  · cases admitted with
    | edit indexed found held =>
      cases named
      cases orderly.eq_of_slot? found present rfl
      rw [Event.change, if_pos rfl]
      exact .inr (.inr (.inr (.inl ⟨_, _, rfl, held⟩)))
    | release indexed found held =>
      cases named
      rw [Event.change, if_pos rfl]
      exact .inr (.inl rfl)
    | claim room first taken =>
      rename_i home w timeslot capacity email vacant slot
      have stored := mem_of_find?_atTimeslot first
      cases List.inj_on_of_nodup_map (orderly.distinct home) present stored (Option.some.inj named).symm
      rw [Event.change, if_pos rfl, ← eq_of_taken (orderly.distinct home) stored taken]
      refine .inr (.inr (.inr (.inr ⟨home, w, timeslot, capacity, email, rfl, ?_⟩)))
      rw [eq_of_taken (orderly.distinct home) stored taken]
    | _ => cases named

end Register

def Call.Voices (r : Request) : Call → Prop
  | .insert slot _ => slot.student = r.email? ∧ ∀ text ∈ slot.details.texts, ∃ sent ∈ r.texts, Text.trim sent = text
  | .edit _ email details => some email = r.email? ∧ ∀ text ∈ details.texts, ∃ sent ∈ r.texts, Text.trim sent = text
  | .claim .. => False
  | _ => True

namespace Desk

/-- What a request asks of the store, and what of a row its response shows: for an admin whatever was found, for others
what was found under their email, the row that they brought, or the row that they were given by a claim. -/
inductive Discloses (r : Request) : List Exchange → List Id → Response → Prop
  | looked {told : List Exchange} {taken : List Id} {response : Response} (quiet : Quiet told)
      (shown : r.privileged = false → ∀ v ∈ response.items, v.texts ≠ [] → ∃ queue w email rows row,
        r.email? = some email ∧ ⟨.claimedBy queue w email, .ok rows⟩ ∈ told ∧ row ∈ rows ∧ v = row.toJson) :
      Discloses r told taken response
  | acted {told : List Exchange} {x : Exchange} {taken : List Id} {response : Response} (quiet : Quiet told)
      (voiced : x.call.acknowledges x.answer = true → x.call.Voices r)
      (shown : ∀ v ∈ response.items, v.texts ≠ [] → ∃ slot guard created,
        x = ⟨.insert slot guard, .ok created⟩ ∧ v = created.toJson) : Discloses r (told ++ [x]) taken response
  | claimed {told : List Exchange} {queue : Id} {weekday : UInt8} {timeslot : UInt32} {caller : Caller} {w : Span}
      {capacity : Nat} {a : Except StoreError Slot} (quiet : Quiet told)
      (asked : r = .claimTimeslot queue weekday timeslot caller) :
      Discloses r (told ++ [⟨.claim queue w timeslot capacity caller.email, a⟩]) [] (match a with
        | .ok row => .withBody .created row.toJson
        | .error e => .ofError (.ofStore e))
  | moved {told : List Exchange} {appointment : Id} {new created : Slot} {guard : Guard} {email : String}
      {a : Except StoreError Bool} {taken : List Id} {response : Response} (quiet : Quiet told)
      (voiced : (Call.insert new guard).Voices r)
      (shown : ∀ v ∈ response.items, v.texts ≠ [] → v = created.toJson) :
      Discloses r (told ++ [⟨.insert new guard, .ok created⟩, ⟨.release appointment email, a⟩]) taken response

variable {r : Request} {told : List Exchange} {taken : List Id} {response : Response}

theorem discloses_error (quiet : Quiet told) (e : BookingError) : Discloses r told taken (.ofError e) :=
  .looked quiet fun _ _ member => absurd member List.not_mem_nil

theorem discloses_acted {x : Exchange} (quiet : Quiet told)
    (voiced : x.call.acknowledges x.answer = true → x.call.Voices r)
    (plain : ∀ v ∈ response.items, v.texts = []) : Discloses r (told ++ [x]) taken response :=
  .acted quiet voiced fun v member speaks => absurd (plain v member) speaks

theorem Discloses.voices (discloses : Discloses r told taken response) {x : Exchange} (heard : x ∈ told)
    (done : x.call.acknowledges x.answer = true) :
    x.call.Voices r ∨ ∃ queue weekday timeslot caller w capacity, r = .claimTimeslot queue weekday timeslot caller ∧
      x.call = .claim queue w timeslot capacity caller.email := by
  have writes : x.call.reads = false := by
    rw [Bool.eq_false_iff]
    intro reads
    rw [Call.acknowledges_of_reads reads] at done
    contradiction
  cases discloses with
  | looked quiet => exact absurd heard (quiet.not_mem writes)
  | acted quiet voiced =>
    cases List.mem_singleton.mp ((quiet.mem_append writes).mp heard)
    exact .inl (voiced done)
  | claimed quiet asked =>
    cases List.mem_singleton.mp ((quiet.mem_append writes).mp heard)
    exact .inr ⟨_, _, _, _, _, _, asked, rfl⟩
  | moved quiet voiced =>
    rcases List.mem_pair.mp ((quiet.mem_append writes).mp heard) with rfl | rfl
    · exact .inl voiced
    · exact .inl True.intro

/-- A claim that was granted is the last of all calls, and its row is the answer. -/
theorem Discloses.ends_with_claim (discloses : Discloses r told taken response) {queue : Id} {w : Span}
    {timeslot : UInt32} {capacity : Nat} {email : String} {row : Slot}
    (heard : ⟨.claim queue w timeslot capacity email, .ok row⟩ ∈ told) :
    Quiet told.dropLast ∧ taken = [] ∧ response = .withBody .created row.toJson := by
  cases discloses with
  | looked quiet => exact absurd heard (quiet.not_mem rfl)
  | acted quiet voiced =>
    cases List.mem_singleton.mp ((quiet.mem_append rfl).mp heard)
    exact absurd (voiced rfl) id
  | claimed quiet asked =>
    cases List.mem_singleton.mp ((quiet.mem_append rfl).mp heard)
    rw [List.dropLast_concat]
    exact ⟨quiet, rfl, rfl⟩
  | moved quiet voiced =>
    rcases List.mem_pair.mp ((quiet.mem_append rfl).mp heard) with other | other <;> cases other

theorem Discloses.shown (discloses : Discloses r told taken response) (unprivileged : r.privileged = false) {v : Json}
    (member : v ∈ response.items) (speaks : v.texts ≠ []) :
    (∃ queue w email rows row, r.email? = some email ∧ ⟨.claimedBy queue w email, .ok rows⟩ ∈ told ∧ row ∈ rows ∧
      v = row.toJson) ∨ (∃ slot guard created, ⟨.insert slot guard, .ok created⟩ ∈ told ∧ v = created.toJson) ∨
        (∃ queue weekday timeslot caller, r = .claimTimeslot queue weekday timeslot caller) ∧
          response = .withBody .created v := by
  cases discloses with
  | looked quiet shown => exact .inl (shown unprivileged v member speaks)
  | acted quiet voiced shown =>
    obtain ⟨slot, guard, created, rfl, same⟩ := shown v member speaks
    exact .inr (.inl ⟨slot, guard, created, List.mem_append_right _ (List.mem_singleton.mpr rfl), same⟩)
  | claimed quiet asked =>
    rename_i a
    cases a with
    | error e => exact absurd member List.not_mem_nil
    | ok row =>
      cases List.mem_singleton.mp member
      exact .inr (.inr ⟨⟨_, _, _, _, asked⟩, rfl⟩)
  | moved quiet voiced shown =>
    exact .inr (.inl ⟨_, _, _, List.mem_append_right _ List.mem_cons_self, shown v member speaks⟩)

structure Discreet (r : Request) (p : Plan Response) : Prop where
  tells : p.Tells (Discloses r) [] []

theorem discreet_respond {α : Type} {a : Action α} {present : α → Response}
    (tells : a.Tells (fun told taken answer => Discloses r told taken (match answer with
      | .ok r => present r
      | .error e => .ofError e)) [] []) : Discreet r (respond a present) := ⟨tells_respond tells⟩

theorem discreet_inquire (d : Desk) (inquiry : Inquiry) {present : inquiry.Result → Response}
    (plain : ∀ found, ∀ v ∈ (present found).items, v.texts = []) :
    Discreet r (respond (d.inquire inquiry) present) := by
  apply discreet_respond
  refine (d.tells_inquire inquiry).mono fun told taken answer quiet => ?_
  cases answer with
  | ok found => exact .looked quiet fun _ v member speaks => absurd (plain found v member) speaks
  | error e => exact discloses_error quiet e

theorem discreet_myAppointments (d : Desk) (queue : Id) (weekday : UInt8) {caller : Caller}
    (own : r.email? = some caller.email) :
    Discreet r (respond (d.myAppointments queue weekday caller) (presentList Slot.toJson)) := by
  apply discreet_respond
  unfold myAppointments
  refine Action.tells_check (fun _ _ => ?_) fun e _ => discloses_error quiet_nil e
  refine Action.tells_check (fun w _ => ?_) fun e _ => discloses_error quiet_nil e
  constructor
  intro a
  have reads : Quiet ([] ++ [⟨.claimedBy queue w caller.email, a⟩]) := quiet_nil.snoc rfl
  cases a with
  | error e => exact discloses_error reads _
  | ok rows =>
    refine .looked reads fun _ v member _ => ?_
    obtain ⟨row, found, same⟩ := List.mem_map.mp member
    exact ⟨queue, w, caller.email, rows, row, own, List.mem_singleton.mpr rfl, found, same.symm⟩

theorem discreet_appointmentsForDay (d : Desk) (queue : Id) (weekday : UInt8) {caller : Caller}
    (own : r.email? = some caller.email) (privileged : r.privileged = caller.admin) :
    Discreet r (respond (d.appointmentsForDay queue weekday caller) (presentList Slot.toJson)) := by
  cases admin : caller.admin with
  | false =>
    have mine : d.appointmentsForDay queue weekday caller = d.myAppointments queue weekday caller := by
      rw [appointmentsForDay, admin, if_neg Bool.false_ne_true]
    rw [mine]
    exact d.discreet_myAppointments queue weekday own
  | true =>
    apply discreet_respond
    refine (d.tells_inquire (.appointmentsForDay queue weekday caller)).mono fun told taken answer quiet => ?_
    cases answer with
    | error e => exact discloses_error quiet e
    | ok rows =>
      refine .looked quiet fun unprivileged => ?_
      rw [privileged, admin] at unprivileged
      contradiction

theorem discreet_claimTimeslot (d : Desk) (queue : Id) (weekday : UInt8) (timeslot : UInt32) (caller : Caller) :
    Discreet (.claimTimeslot queue weekday timeslot caller)
      (d.dispatch (.claimTimeslot queue weekday timeslot caller)) := by
  apply discreet_respond
  refine (d.tells_claimTimeslot queue weekday timeslot caller).mono fun told taken answer performs => ?_
  cases performs with
  | refused quiet => exact discloses_error quiet _
  | claimed quiet bounds found ahead known =>
    rename_i a
    cases a with
    | ok row => exact .claimed (a := .ok row) quiet rfl
    | error e => exact .claimed (a := .error e) quiet rfl

theorem discreet_signup (d : Desk) (queue : Id) (weekday : UInt8) (timeslot : UInt32) (caller : Caller)
    (draft : Draft) :
    Discreet (.signup queue weekday timeslot caller draft)
      (d.dispatch (.signup queue weekday timeslot caller draft)) := by
  apply discreet_respond
  refine (d.tells_signup queue weekday timeslot draft caller).mono fun told taken answer performs => ?_
  cases performs with
  | refused quiet => exact discloses_error quiet _
  | signed quiet bounds found ahead known texts =>
    rename_i a
    refine .acted quiet (fun _ => ⟨rfl, fun text stored => Rules.exists_sent texts stored⟩) fun v member _ => ?_
    cases a with
    | ok created => exact ⟨_, _, created, rfl, List.mem_singleton.mp member⟩
    | error e => exact absurd member List.not_mem_nil

theorem discreet_updateAppointment (d : Desk) (appointment : Id) (caller : Caller) (draft : Draft) :
    Discreet (.updateAppointment appointment caller draft)
      (d.dispatch (.updateAppointment appointment caller draft)) := by
  apply discreet_respond
  refine (d.tells_updateAppointment appointment draft caller).mono fun told taken answer story => ?_
  cases story with
  | refused quiet => exact discloses_error quiet _
  | edited quiet texts =>
    rename_i a
    refine discloses_acted quiet (fun _ => ⟨rfl, fun text stored => Rules.exists_sent texts stored⟩) ?_
    cases a <;> exact List.forall_mem_nil _
  | full quiet => exact discloses_acted quiet nofun (List.forall_mem_nil _)
  | moved quiet fetched replaces known found =>
    rename_i a
    refine .moved quiet ⟨replaces.claimed, fun text stored => Rules.exists_sent replaces.texts stored⟩ ?_
    intro v member _
    cases a with
    | ok gone => exact List.mem_singleton.mp member
    | error cause => exact absurd member List.not_mem_nil

theorem discreet_removeSignup (d : Desk) (appointment : Id) (caller : Caller) :
    Discreet r (d.dispatch (.removeSignup appointment caller)) := by
  apply discreet_respond
  refine (d.tells_removeSignup appointment caller).mono fun told taken answer story => ?_
  cases story with
  | refused quiet => exact discloses_error quiet _
  | vacated quiet => exact .looked quiet fun _ v member => absurd member List.not_mem_nil
  | released quiet fetched ahead =>
    rename_i a
    refine discloses_acted quiet (fun _ => True.intro) ?_
    cases a with
    | ok gone => cases gone <;> exact List.forall_mem_nil _
    | error e => exact List.forall_mem_nil _

theorem discreet_updateSchedule (d : Desk) (queue : Id) (weekday : UInt8) (caller : Caller)
    (body : ScheduleBody) :
    Discreet r (d.dispatch (.updateSchedule queue weekday caller body)) := by
  apply discreet_respond
  unfold submitSchedule
  refine Action.tells_check (fun capacities _ => ?_) fun e _ => discloses_error quiet_nil e
  refine (d.tells_reschedules queue weekday body.duration capacities caller).mono fun told taken answer story => ?_
  cases story with
  | refused quiet => exact discloses_error quiet _
  | replaced quiet admin bounds valid =>
    rename_i a
    refine discloses_acted quiet (fun _ => True.intro) ?_
    cases a <;> exact List.forall_mem_nil _

theorem discreet_publishOpenSlots (d : Desk) (queue : Id) (weekday : UInt8) (caller : Caller) (template : Draft) :
    Discreet r (d.dispatch (.publishOpenSlots queue weekday caller template)) := by
  apply discreet_respond
  refine (d.tells_publishes queue weekday template caller).mono fun told taken answer story => ?_
  cases story with
  | refused quiet => exact discloses_error quiet _
  | asked quiet admin texts bounds stored seen enough =>
    rename_i a
    refine discloses_acted quiet (fun _ => True.intro) ?_
    cases a with
    | error e => exact List.forall_mem_nil _
    | ok count =>
      intro v member
      cases List.mem_singleton.mp member
      simp [Json.texts]

theorem discreet_dispatch (d : Desk) (r : Request) : Discreet r (d.dispatch r) := by
  have listed : ∀ {α : Type} {toJson : α → Json}, (∀ a, (toJson a).texts = []) → ∀ found : List α,
      ∀ v ∈ (presentList toJson found).items, v.texts = [] := by
    intro α toJson plain found v member
    obtain ⟨a, _, rfl⟩ := List.mem_map.mp member
    exact plain a
  cases r with
  | appointmentsForDay queue weekday caller => exact d.discreet_appointmentsForDay queue weekday rfl rfl
  | myAppointments queue weekday caller => exact d.discreet_myAppointments queue weekday rfl
  | schedule queue weekday =>
    cases weekday with
    | some weekday =>
      refine d.discreet_inquire (.scheduleForDay queue weekday) fun schedule v member => ?_
      cases List.mem_singleton.mp member
      exact schedule.texts_toJson
    | none => exact d.discreet_inquire (.schedules queue) (listed Schedule.texts_toJson)
  | timeslotAvailability queue weekday =>
    exact d.discreet_inquire (.timeslotAvailability queue weekday) (listed Availability.texts_toJson)
  | claimTimeslot queue weekday timeslot caller => exact d.discreet_claimTimeslot queue weekday timeslot caller
  | signup queue weekday timeslot caller draft => exact d.discreet_signup queue weekday timeslot caller draft
  | updateAppointment appointment caller draft => exact d.discreet_updateAppointment appointment caller draft
  | removeSignup appointment caller => exact d.discreet_removeSignup appointment caller
  | updateSchedule queue weekday caller body => exact d.discreet_updateSchedule queue weekday caller body
  | publishOpenSlots queue weekday caller template =>
    exact d.discreet_publishOpenSlots queue weekday caller template

end Desk

namespace Plan

theorem done_of_claim {r : Request} {p : Plan Response} {told : List Exchange} {taken : List Id} {queue : Id} {w : Span}
    {timeslot : UInt32} {capacity : Nat} {email : String} {row : Slot}
    (tells : p.Tells (Desk.Discloses r) (told ++ [⟨.claim queue w timeslot capacity email, .ok row⟩]) taken) :
    p = .done (.withBody .created row.toJson) := by
  have heard : ⟨.claim queue w timeslot capacity email, .ok row⟩ ∈
      told ++ [(⟨.claim queue w timeslot capacity email, .ok row⟩ : Exchange)] :=
    List.mem_append_right _ (List.mem_singleton.mpr rfl)
  cases p with
  | done response => rw [(Desk.Discloses.ends_with_claim tells heard).2.2]
  -- A plan that went on would come to an end, and there the claim would not be the last of its calls.
  | ask c next =>
    obtain ⟨more, drawn, response, discloses⟩ := (tells (.error (.notFound default))).exists_end
    have quiet := (discloses.ends_with_claim (List.mem_append_left _ (List.mem_append_left _ heard))).1
    rw [List.append_assoc, List.singleton_append, List.dropLast_append_of_ne_nil (List.cons_ne_nil _ _)] at quiet
    exact absurd (List.mem_append_left _ heard) (quiet.not_mem rfl)
  | mint next =>
    obtain ⟨more, drawn, response, discloses⟩ := (tells default).exists_end
    have none := (discloses.ends_with_claim (List.mem_append_left _ heard)).2.1
    rw [List.append_assoc] at none
    exact absurd (List.append_eq_nil_iff.mp none).2 (List.cons_ne_nil _ _)

end Plan

namespace Service

/-- Nobody holds the row, or the student does, or who holds it was given it, as it is, in answer to a claim. -/
def Cleared (student : String) (requests : List (Instant × Request)) (plans : List (Plan Response)) (row : Slot) :
    Prop :=
  row.student = none ∨ row.student = some student ∨
    ∃ (i : Nat) (now : Instant) (queue : Id) (weekday : UInt8) (timeslot : UInt32) (caller : Caller),
      requests[i]? = some (now, .claimTimeslot queue weekday timeslot caller) ∧ row.student = some caller.email ∧
        plans[i]? = some (.done (.withBody .created row.toJson))

def Harmless (student text : String) (requests : List (Instant × Request)) (plans : List (Plan Response)) :
    Exchange → Prop
  | ⟨.claimedBy _ _ email, .ok rows⟩ => ∀ row ∈ rows, row.student = some email ∧
      (text ∈ row.details.texts → Cleared student requests plans row)
  | ⟨.insert slot _, .ok created⟩ => created = slot
  | _ => True

/-- The rows with the text are cleared, and so are those that the requests under way have heard of. -/
structure Confides (student text : String) (requests : List (Instant × Request)) (s : Service)
    (plans : List (Plan Response)) : Prop where
  rows : ∀ queue, ∀ row ∈ s.store.register.rows queue, text ∈ row.details.texts → Cleared student requests plans row
  plans : ∀ (i : Nat) (p : Plan Response), plans[i]? = some p → ∃ now r told taken, requests[i]? = some (now, r) ∧
    p.Tells (Desk.Discloses r) told taken ∧ ∀ x ∈ told, Harmless student text requests plans x

variable {student text : String} {requests : List (Instant × Request)} {plans later : List (Plan Response)}
  {ids : Nat → Id} {faults : Faults} {s : Service}

theorem Cleared.mono {row : Slot} (cleared : Cleared student requests plans row)
    (kept : ∀ (i : Nat) (response : Response), plans[i]? = some (.done response) → later[i]? = some (.done response)) :
    Cleared student requests later row := by
  rcases cleared with vacant | own | ⟨i, now, queue, weekday, timeslot, caller, requested, held, answered⟩
  · exact .inl vacant
  · exact .inr (.inl own)
  · exact .inr (.inr ⟨i, now, queue, weekday, timeslot, caller, requested, held, kept i _ answered⟩)

theorem Harmless.mono {x : Exchange} (harmless : Harmless student text requests plans x)
    (kept : ∀ (i : Nat) (response : Response), plans[i]? = some (.done response) → later[i]? = some (.done response)) :
    Harmless student text requests later x := by
  obtain ⟨c, a⟩ := x
  cases c with
  | claimedBy queue w email =>
    cases a with
    | ok rows =>
      intro row member
      obtain ⟨held, clears⟩ := harmless row member
      exact ⟨held, fun carried => (clears carried).mono kept⟩
    | error e => exact True.intro
  | insert slot guard =>
    cases a with
    | ok created => exact harmless
    | error e => exact True.intro
  | _ => exact True.intro

theorem done_set {i : Nat} {p : Plan Response} (chosen : plans[i]? = some p) (w : World Service) (j : Nat)
    (response : Response) (done : plans[j]? = some (.done response)) :
    (plans.set i (p.step w s).1)[j]? = some (.done response) := by
  by_cases own : i = j
  · subst own
    cases chosen.symm.trans done
    exact List.getElem?_set_self (List.getElem?_eq_some_iff.mp done).1
  · rw [List.getElem?_set_ne own]
    exact done

theorem harmless_answerWith (orderly : s.store.register.Orderly)
    (rows : ∀ queue, ∀ row ∈ s.store.register.rows queue, text ∈ row.details.texts → Cleared student requests plans row)
    (faults : Faults) (c : Call) : Harmless student text requests plans ⟨c, (s.store.answerWith faults c).1⟩ := by
  cases c with
  | claimedBy queue w email =>
    have shown := s.store.listed_answerWith faults (.claimedBy queue w email)
    generalize (s.store.answerWith faults (.claimedBy queue w email)).1 = answer at shown ⊢
    cases answer with
    | error e => exact True.intro
    | ok found =>
      intro row member
      have listed : row ∈ s.store.register.claimedBy queue w email := shown.subset member
      rw [Register.claimedBy_eq, Queue.claimedBy, Queue.within_eq_filter (orderly.sorted queue)] at listed
      obtain ⟨inside, held⟩ := List.mem_filter.mp listed
      exact ⟨beq_iff_eq.mp held, rows queue row (List.mem_filter.mp inside).1⟩
  | insert slot guard =>
    have outcome := s.store.outcome_answerWith faults (.insert slot guard)
    cases answered : (s.store.answerWith faults (.insert slot guard)).1 with
    | error e => exact True.intro
    | ok created =>
      rw [answered] at outcome
      obtain ⟨e, admitted, _⟩ := outcome.applied rfl
      cases admitted
      rfl
  | _ => exact True.intro

variable {i : Nat} {c : Call} {a : c.Answer} {next : c.Answer → Plan Response} {t : Store}

theorem Confides.rows_answered (confides : Confides student text requests s plans) (orderly : s.store.register.Orderly)
    (hidden : ∀ a ∈ requests, a.2.email? ≠ some student → ∀ sent ∈ a.2.texts, Text.trim sent ≠ text)
    (chosen : plans[i]? = some (.ask c next)) (outcome : s.store.Outcome c a t)
    (kept : ∀ (j : Nat) (response : Response), plans[j]? = some (.done response) → later[j]? = some (.done response))
    (moved : later[i]? = some (next a)) (queue : Id) {row : Slot} (member : row ∈ t.register.rows queue)
    (carried : text ∈ row.details.texts) : Cleared student requests later row := by
  obtain ⟨now, r, told, taken, requested, tells, _⟩ := confides.plans i _ chosen
  have heard : (next a).Tells (Desk.Discloses r) (told ++ [⟨c, a⟩]) taken := tells a
  have own : (∃ sent ∈ r.texts, Text.trim sent = text) → r.email? = some student := by
    rintro ⟨sent, submitted, same⟩
    exact Classical.byContradiction fun other => hidden _ (List.mem_of_getElem? requested) other sent submitted same
  rcases outcome.quiet_or_applied with ⟨_, same⟩ | ⟨e, admitted, same⟩
  · rw [same.rows] at member
    exact (confides.rows queue row member carried).mono kept
  · rw [same.rows] at member
    -- What the plan may do is known of its ends, so the call is judged from any end that it still has.
    obtain ⟨more, drawn, response, discloses⟩ := heard.exists_end
    have voiced := discloses.voices (x := ⟨c, a⟩)
      (List.mem_append_left _ (List.mem_append_right _ (List.mem_singleton.mpr rfl))) admitted.acknowledges
    rcases admitted.origin orderly member with present | vacant | ⟨guard, rfl⟩ | ⟨id, email, rfl, held⟩ |
      ⟨home, w, timeslot, capacity, email, claimed, held⟩
    · exact (confides.rows queue row present carried).mono kept
    · exact .inl vacant
    · rcases voiced with ⟨held, texts⟩ | ⟨_, _, _, _, _, _, _, other⟩
      · exact .inr (.inl (held.trans (own (texts text carried))))
      · cases other
    · rcases voiced with ⟨named, texts⟩ | ⟨_, _, _, _, _, _, _, other⟩
      · exact .inr (.inl (held.trans (named.trans (own (texts text carried)))))
      · cases other
    · cases claimed
      rcases voiced with never | ⟨queue, weekday, timeslot, caller, w, capacity, rfl, asked⟩
      · exact absurd never id
      · cases asked
        rw [Plan.done_of_claim heard] at moved
        exact .inr (.inr ⟨i, now, _, weekday, _, caller, requested, held, moved⟩)

theorem Confides.step {p : Plan Response} (confides : Confides student text requests s plans)
    (orderly : s.store.register.Orderly)
    (hidden : ∀ a ∈ requests, a.2.email? ≠ some student → ∀ sent ∈ a.2.texts, Text.trim sent ≠ text)
    (chosen : plans[i]? = some p) :
    Confides student text requests (p.step (world ids faults) s).2 (plans.set i (p.step (world ids faults) s).1) := by
  have kept := done_set (s := s) chosen (world ids faults)
  have moved : (plans.set i (p.step (world ids faults) s).1)[i]? = some (p.step (world ids faults) s).1 :=
    List.getElem?_set_self (List.getElem?_eq_some_iff.mp chosen).1
  constructor
  · intro queue row member carried
    cases p with
    | done response => exact (confides.rows queue row member carried).mono kept
    | mint next => exact (confides.rows queue row member carried).mono kept
    | ask c next =>
      exact confides.rows_answered orderly hidden chosen (s.store.outcome_answerWith faults c) kept moved queue member
        carried
  · intro j q found
    by_cases own : i = j
    · subst own
      cases moved.symm.trans found
      obtain ⟨now, r, told, taken, requested, tells, harmless⟩ := confides.plans i p chosen
      obtain ⟨drawn, later⟩ := tells.step (world ids faults) s
      refine ⟨now, r, _, _, requested, later, fun x heard => ?_⟩
      rcases List.mem_append.mp heard with old | new
      · exact (harmless x old).mono kept
      · cases p with
        | done response => exact absurd new List.not_mem_nil
        | mint next => exact absurd new List.not_mem_nil
        | ask c next =>
          cases List.mem_singleton.mp new
          exact (harmless_answerWith orderly confides.rows faults c).mono kept
    · rw [List.getElem?_set_ne own] at found
      obtain ⟨now, r, told, taken, requested, tells, harmless⟩ := confides.plans j q found
      exact ⟨now, r, told, taken, requested, tells, fun x heard => (harmless x heard).mono kept⟩

variable {zone : Zone}

theorem Reached.confides (reached : Reached ids zone s plans) {turns : List Nat}
    (distinct : ((List.range (Plan.interleave (world ids faults) turns plans s).2.minted).map ids).Nodup)
    (hidden : ∀ a ∈ requests, a.2.email? ≠ some student → ∀ sent ∈ a.2.texts, Text.trim sent ≠ text)
    (confides : Confides student text requests s plans) :
    Confides student text requests (Plan.interleave (world ids faults) turns plans s).2
      (Plan.interleave (world ids faults) turns plans s).1 := by
  refine reached.interleave_keeps distinct (fun s plans i p reached known chosen confides => ?_) confides
  obtain ⟨used, consistent, _⟩ := reached.sound known
  exact confides.step consistent.formed.orderly hidden chosen

/-- Requests are dispatched from an empty log, and one student alone submits a text, blanks around it aside. Whatever
turns the requests take, no other caller without the rights of an admin is shown an appointment with that text, but
for the row that a claim of theirs was answered with, as it was then. -/
theorem texts_reach_claimants_only {disk : Log.Disk} (blank : disk.bytes = []) (requests : List (Instant × Request))
    (faults : Faults) (turns : List Nat) {student text : String}
    (hidden : ∀ a ∈ requests, a.2.email? ≠ some student → ∀ sent ∈ a.2.texts, Text.trim sent ≠ text)
    (distinct : ((List.range (Plan.interleave (world ids faults) turns
      (requests.map fun a => (Desk.mk zone a.1).dispatch a.2) (start disk)).2.minted).map ids).Nodup) :
    let after := (Plan.interleave (world ids faults) turns
      (requests.map fun a => (Desk.mk zone a.1).dispatch a.2) (start disk)).1
    ∀ (i : Nat) (now : Instant) (r : Request) (response : Response) (v : Json),
      requests[i]? = some (now, r) → r.email? ≠ some student → r.privileged = false →
        after[i]? = some (.done response) → v ∈ response.items → text ∈ v.texts →
          ∃ (j : Nat) (now : Instant) (queue : Id) (weekday : UInt8) (timeslot : UInt32) (caller : Caller),
            requests[j]? = some (now, .claimTimeslot queue weekday timeslot caller) ∧
              r.email? = some caller.email ∧ after[j]? = some (.done (.withBody .created v)) := by
  intro after i now r response v requested other unprivileged answered member carries
  have started : Confides student text requests (start disk)
      (requests.map fun a => (Desk.mk zone a.1).dispatch a.2) := by
    constructor
    · intro queue row member
      have empty : (start disk).store.register = Register.empty := by
        rw [start, Store.open, blank]
        rfl
      rw [empty, Register.rows_empty] at member
      contradiction
    · intro j p chosen
      rw [List.getElem?_map, Option.map_eq_some_iff] at chosen
      obtain ⟨⟨now, r⟩, requested, rfl⟩ := chosen
      exact ⟨now, r, [], [], requested, (Desk.discreet_dispatch _ r).tells, List.forall_mem_nil _⟩
  have reached := (Reached.started blank : Reached ids zone (start disk) []).arrivals requests
  obtain ⟨rows, plans⟩ := reached.confides distinct hidden started
  obtain ⟨_, _, told, taken, same, tells, harmless⟩ := plans i _ answered
  cases requested.symm.trans same
  rcases Desk.Discloses.shown tells unprivileged member (List.ne_nil_of_mem carries) with
    ⟨queue, w, email, found, row, named, heard, listed, rfl⟩ | ⟨slot, guard, created, heard, rfl⟩ |
    ⟨⟨queue, weekday, timeslot, caller, rfl⟩, rfl⟩
  · obtain ⟨held, cleared⟩ := harmless _ heard row listed
    rw [← named] at held
    rcases cleared ((row.mem_texts_toJson text).mp carries) with vacant | own |
      ⟨j, now, queue, weekday, timeslot, caller, claimed, given, done⟩
    · rw [held, named] at vacant
      contradiction
    · exact absurd (held.symm.trans own) other
    · exact ⟨j, now, queue, weekday, timeslot, caller, claimed, held.symm.trans given, done⟩
  · cases harmless _ heard
    rcases Desk.Discloses.voices tells heard rfl with ⟨_, texts⟩ | ⟨_, _, _, _, _, _, _, claim⟩
    · obtain ⟨sent, submitted, kept⟩ := texts text ((slot.mem_texts_toJson text).mp carries)
      exact absurd kept (hidden _ (List.mem_of_getElem? requested) other sent submitted)
    · cases claim
  · exact ⟨i, now, queue, weekday, timeslot, caller, requested, rfl, answered⟩

/-- Ada books an hour and gives it up, Bob claims it and looks at what he has, and Cyd books the next. -/
def lentHour : List (Instant × Request) :=
  let ada : Caller := ⟨"ada@x.edu", false⟩
  let bob : Caller := ⟨"bob@x.edu", false⟩
  [(1700006400000, .updateSchedule (Id.ofNat 7) 3 ⟨"staff@x.edu", true⟩ ⟨60, "111111111111111111111111"⟩),
    (1700006400000, .signup (Id.ofNat 7) 3 10 ada ⟨none, some "Ada", some "limits", some "room 1", none, none⟩),
    (1700006400000, .removeSignup (Id.ofNat 1) ada), (1700006400000, .claimTimeslot (Id.ofNat 7) 3 10 bob),
    (1700006400000, .myAppointments (Id.ofNat 7) 3 bob),
    (1700006400000, .signup (Id.ofNat 7) 3 11 ⟨"cyd@x.edu", false⟩
      ⟨none, some "Cyd", some " limits ", some "room 2", none, none⟩)]

theorem texts_reach_claimants_only_lentHour :
    let ids := fun n => Id.ofNat (n + 1)
    let turns := (List.range 6).flatMap (List.replicate 8)
    let after := (Plan.interleave (world ids noFaults) turns
      (lentHour.map fun a => (Desk.mk Zone.utc a.1).dispatch a.2) (start {})).1
    (after[4]?.bind Plan.answer?).map (fun r => r.items.map Json.texts) = some [["limits", "room 1", "Ada"]] ∧
      ∃ (j : Nat) (now : Instant) (queue : Id) (weekday : UInt8) (timeslot : UInt32) (caller : Caller) (v : Json),
        lentHour[j]? = some (now, .claimTimeslot queue weekday timeslot caller) ∧
          caller.email = "bob@x.edu" ∧ "Ada" ∈ v.texts ∧ after[j]? = some (.done (.withBody .created v)) := by
  intro ids turns after
  have shown : (after[4]?.bind Plan.answer?).map (fun r => r.items.map Json.texts) =
      some [["limits", "room 1", "Ada"]] := by decide +kernel
  refine ⟨shown, ?_⟩
  obtain ⟨response, answered, listed⟩ := Option.map_eq_some_iff.mp shown
  obtain ⟨p, present, ended⟩ := Option.bind_eq_some_iff.mp answered
  cases p with
  | ask c next => cases ended
  | mint next => cases ended
  | done a =>
    cases ended
    obtain ⟨v, member, texts⟩ := List.mem_map.mp (listed ▸ List.mem_singleton.mpr rfl :
      ["limits", "room 1", "Ada"] ∈ response.items.map Json.texts)
    have carries : "Ada" ∈ v.texts := by
      rw [texts]
      decide
    obtain ⟨j, now, queue, weekday, timeslot, caller, claimed, named, given⟩ :=
      @texts_reach_claimants_only ids Zone.utc {} rfl lentHour noFaults turns "ada@x.edu" "Ada" (by decide +kernel)
        (by decide +kernel) 4 1700006400000 (.myAppointments (Id.ofNat 7) 3 ⟨"bob@x.edu", false⟩) response v rfl
        (by decide) rfl present member carries
    exact ⟨j, now, queue, weekday, timeslot, caller, v, claimed, (Option.some.inj named).symm, carries, given⟩

/-- Bob is shown what Ada alone submitted, and Cyd what Ada alone submitted without blanks around it. -/
theorem claim_hands_over_texts :
    let ids := fun n => Id.ofNat (n + 1)
    let turns := (List.range 6).flatMap (List.replicate 8)
    let after := (Plan.interleave (world ids noFaults) turns
      (lentHour.map fun a => (Desk.mk Zone.utc a.1).dispatch a.2) (start {})).1
    (∀ a ∈ lentHour, a.2.email? ≠ some "ada@x.edu" → "Ada" ∉ a.2.texts ∧ "limits" ∉ a.2.texts) ∧
      (lentHour.drop 3).map (fun a => (a.2.email?, a.2.privileged)) =
        [(some "bob@x.edu", false), (some "bob@x.edu", false), (some "cyd@x.edu", false)] ∧
      ((after.drop 3).map fun p => p.answer?.map fun r => r.items.map Json.texts) =
        [some [["limits", "room 1", "Ada"]], some [["limits", "room 1", "Ada"]],
          some [["limits", "room 2", "Cyd"]]] := by
  intro ids turns after
  exact ⟨by decide +kernel, by decide +kernel, by decide +kernel⟩

end Service

end Bookings
