import Bookings.Proofs.Desk.Overbooking
import Bookings.Proofs.Desk.Tells
import Bookings.Proofs.Store.Answers

namespace Bookings

namespace Service

/-- The store, but for what it says of the rows at a timeslot and of the rows of a student, which may be anything. -/
def advised (ids : Nat → Id) (seats mine : List Slot) : World Service where
  answer
    | .atTimeslot .., s => (.ok seats, s)
    | .claimedBy .., s => (.ok mine, s)
    | c, s => (world ids noFaults).answer c s
  mint := (world ids noFaults).mint

end Service

namespace Action

variable {α β : Type} {w : World Service} {ids : Nat → Id} {seats mine : List Slot} {s : Service}

def Refuses (w : World Service) (s : Service) (x : Action α) : Prop :=
  ∃ e t, x.outcome w s = (.error e, t) ∧ t.store = s.store

theorem refuses_fail (e : BookingError) : Refuses w s (fail e : Action α) := ⟨e, s, rfl, rfl⟩

theorem Refuses.bind {x : Action α} {f : α → Action β} (refuses : Refuses w s x) : Refuses w s (x >>= f) := by
  obtain ⟨e, t, refused, same⟩ := refuses
  refine ⟨e, t, ?_, same⟩
  rw [outcome_bind, refused]

theorem refuses_check {r : Except BookingError α} {f : α → Action β} (next : ∀ a, Refuses w s (f a)) :
    Refuses w s (check r >>= f) := by
  cases r with
  | ok a => exact next a
  | error e => exact ⟨e, s, rfl, rfl⟩

/-- How a request ends on answers that may be false, next to how it ends on the true ones: in the same way; both times
refused, with the same store; or refused for rows that it was told of. -/
inductive Compares (seats mine : List Slot) :
    Except BookingError α × Service → Except BookingError α × Service → Prop
  | same (ending : Except BookingError α × Service) : Compares seats mine ending ending
  | refused {e cause : BookingError} {t u : Service} (kept : t.store = u.store) :
      Compares seats mine (.error e, t) (.error cause, u)
  | misled {e : BookingError} {t : Service} {ending : Except BookingError α × Service}
      (rows : seats ≠ [] ∨ mine ≠ []) : Compares seats mine (.error e, t) ending

def Unswayed (ids : Nat → Id) (seats mine : List Slot) (s : Service) (x : Action α) : Prop :=
  Compares seats mine (x.outcome (Service.advised ids seats mine) s) (x.outcome (Service.world ids Service.noFaults) s)

theorem compares_of_refuses {x y : Action α} {v : World Service} (first : Refuses w s x) (second : Refuses v s y) :
    Compares seats mine (x.outcome w s) (y.outcome v s) := by
  obtain ⟨e, t, refused, same⟩ := first
  obtain ⟨cause, u, told, kept⟩ := second
  rw [refused, told]
  exact .refused (same.trans kept.symm)

theorem unswayed_of_eq {x : Action α}
    (same : x.outcome (Service.advised ids seats mine) s = x.outcome (Service.world ids Service.noFaults) s) :
    Unswayed ids seats mine s x := by
  unfold Unswayed
  rw [same]
  exact .same _

theorem unswayed_call {c : Call}
    (plain : (Service.advised ids seats mine).answer c s = (Service.world ids Service.noFaults).answer c s) :
    Unswayed ids seats mine s (call c) := by
  apply unswayed_of_eq
  rw [outcome_call, outcome_call, plain]

theorem Unswayed.bind {x : Action α} {f : α → Action β} (first : Unswayed ids seats mine s x)
    (next : ∀ a t, x.outcome (Service.world ids Service.noFaults) s = (.ok a, t) → Unswayed ids seats mine t (f a)) :
    Unswayed ids seats mine s (x >>= f) := by
  unfold Unswayed at first ⊢
  rw [outcome_bind, outcome_bind]
  generalize x.outcome (Service.advised ids seats mine) s = advised at first ⊢
  generalize x.outcome (Service.world ids Service.noFaults) s = seeing at first next ⊢
  -- Where the two runs differ, the request is over in the one on the advice.
  cases first with
  | same =>
    obtain ⟨answer, t⟩ := advised
    cases answer with
    | ok a => exact next a t rfl
    | error e => exact .same _
  | refused kept => exact .refused kept
  | misled rows => exact .misled rows

theorem unswayed_check {r : Except BookingError α} {f : α → Action β}
    (next : ∀ a, Unswayed ids seats mine s (f a)) : Unswayed ids seats mine s (check r >>= f) := by
  refine Unswayed.bind (unswayed_of_eq rfl) fun a t passed => ?_
  cases passed
  exact next a

theorem unswayed_newId {f : Id → Action β} (next : ∀ id t, Unswayed ids seats mine t (f id)) :
    Unswayed ids seats mine s (newId >>= f) := next _ _

theorem refuses_newId {f : Id → Action β}
    (next : ∀ id minted, Refuses (Service.advised ids seats mine) ⟨s.store, minted⟩ (f id)) :
    Refuses (Service.advised ids seats mine) s (newId >>= f) := next (ids s.minted) (s.minted + 1)

theorem refuses_insert {row : Slot} {guard : Guard}
    (unfit : ∃ e, s.store.answer (.insert row guard) = (.error e, s.store)) :
    Refuses (Service.advised ids seats mine) s (call (.insert row guard)) := by
  obtain ⟨e, refused⟩ := unfit
  refine ⟨.ofStore e, s, ?_, rfl⟩
  have answered : (Service.advised ids seats mine).answer (.insert row guard) s = (.error e, s) := by
    show ((s.store.answer (.insert row guard)).1, Service.mk (s.store.answer (.insert row guard)).2 s.minted) = _
    rw [refused]
  rw [outcome_call, answered]
  rfl

end Action

namespace Desk

variable {α : Type} {ids : Nat → Id} {seats mine : List Slot} {s : Service}

theorem outcome_requireSchedule {w : World Service} {queue : Id} {weekday : UInt8} {found : Option Schedule}
    (answered : w.answer (.scheduleFor queue weekday) s = (.ok found, s)) :
    (requireSchedule queue weekday).outcome w s = (found.elim (.error (.noSchedule queue weekday)) .ok, s) := by
  unfold requireSchedule
  rw [Action.outcome_bind, Action.outcome_call, answered]
  cases found <;> rfl

theorem unswayed_timeslotCapacity {queue : Id} {weekday : UInt8} {timeslot : UInt32} {f : Schedule × Nat → Action α}
    (next : ∀ schedule capacity, (s.store.register.queue? queue).isSome = true →
      Action.Unswayed ids seats mine s (f (schedule, capacity))) :
    Action.Unswayed ids seats mine s (timeslotCapacity queue weekday timeslot >>= f) := by
  have seeing : (requireSchedule queue weekday).outcome (Service.world ids Service.noFaults) s =
      ((s.store.register.schedule? queue weekday).elim (.error (.noSchedule queue weekday)) .ok, s) :=
    outcome_requireSchedule rfl
  have plain : Action.Unswayed ids seats mine s (requireSchedule queue weekday) := by
    apply Action.unswayed_of_eq
    rw [seeing]
    exact outcome_requireSchedule rfl
  unfold timeslotCapacity
  refine Action.Unswayed.bind (plain.bind fun schedule t _ => ?_) fun ⟨schedule, capacity⟩ t found => ?_
  · cases schedule.capacityAt timeslot <;> exact Action.unswayed_of_eq rfl
  · rw [Action.outcome_bind, seeing] at found
    cases stored : s.store.register.schedule? queue weekday with
    | none =>
      rw [stored] at found
      cases found
    | some schedule =>
      rw [stored] at found
      dsimp only [Option.elim_some] at found
      cases given : schedule.capacityAt timeslot with
      | none =>
        rw [given] at found
        cases found
      | some capacity =>
        rw [given] at found
        cases found
        exact next _ _ (Register.isSome_queue?_of_schedule? stored)

theorem outcome_ensureRoom {w : World Service} {queue : Id} {day : Span} {timeslot : UInt32} {capacity : Nat}
    {rows : List Slot} (answered : w.answer (.atTimeslot queue day timeslot) s = (.ok rows, s)) :
    (ensureRoom queue day timeslot capacity).outcome w s =
      (if hasRoom (openSeats capacity rows) = true then .ok () else .error (.noOpenSlots timeslot capacity), s) := by
  unfold ensureRoom
  rw [Action.outcome_bind, Action.outcome_call, answered]
  by_cases room : hasRoom (openSeats capacity rows) = true
  · simp only [room, if_true, Except.mapError]
    rfl
  · simp only [room, Except.mapError]
    rfl

theorem unswayed_ensureRoom {queue : Id} {w : Span} {timeslot : UInt32} {capacity : Nat} {f : Unit → Action α}
    (full : hasRoom (openSeats capacity (s.store.register.atTimeslot queue w timeslot)) = false →
      Action.Refuses (Service.advised ids seats mine) s (f ()))
    (next : Action.Unswayed ids seats mine s (f ())) :
    Action.Unswayed ids seats mine s (ensureRoom queue w timeslot capacity >>= f) := by
  have advised : (ensureRoom queue w timeslot capacity).outcome (Service.advised ids seats mine) s =
      (if hasRoom (openSeats capacity seats) = true then .ok () else .error (.noOpenSlots timeslot capacity), s) :=
    outcome_ensureRoom rfl
  have seeing : (ensureRoom queue w timeslot capacity).outcome (Service.world ids Service.noFaults) s =
      (if hasRoom (openSeats capacity (s.store.register.atTimeslot queue w timeslot)) = true then .ok ()
        else .error (.noOpenSlots timeslot capacity), s) := outcome_ensureRoom rfl
  unfold Action.Unswayed at next ⊢
  rw [Action.outcome_bind, Action.outcome_bind, advised, seeing]
  by_cases told : hasRoom (openSeats capacity seats) = true
  · rw [if_pos told]
    by_cases room : hasRoom (openSeats capacity (s.store.register.atTimeslot queue w timeslot)) = true
    · rw [if_pos room]
      exact next
    · rw [if_neg room]
      obtain ⟨e, t, refused, same⟩ := full (Bool.not_eq_true _ ▸ room)
      dsimp only
      rw [refused]
      exact .refused same
  · rw [if_neg told]
    by_cases room : hasRoom (openSeats capacity (s.store.register.atTimeslot queue w timeslot)) = true
    · refine .misled (.inl ?_)
      rintro rfl
      exact told (hasRoom_openSeats_of_nil room)
    · rw [if_neg room]
      exact .same _

theorem refuses_claimedBy {queue : Id} {w : Span} {email : String} {f : List Slot → Action α}
    (next : Action.Refuses (Service.advised ids seats mine) s (f mine)) :
    Action.Refuses (Service.advised ids seats mine) s (Action.call (.claimedBy queue w email) >>= f) := next

theorem unswayed_claimedBy {queue : Id} {w : Span} {email : String} {f : List Slot → Action α}
    (next : Action.Compares seats mine ((f mine).outcome (Service.advised ids seats mine) s)
      ((f (s.store.register.claimedBy queue w email)).outcome (Service.world ids Service.noFaults) s)) :
    Action.Unswayed ids seats mine s (Action.call (.claimedBy queue w email) >>= f) := next

theorem unswayed_signup (d : Desk) (queue : Id) (weekday : UInt8) (timeslot : UInt32) (draft : Draft)
    (caller : Caller) : Action.Unswayed ids seats mine s (d.signup queue weekday timeslot draft caller) := by
  unfold signup
  refine Action.unswayed_check fun _ => Action.unswayed_check fun details => Action.unswayed_check fun w => ?_
  refine unswayed_timeslotCapacity fun schedule capacity housed => ?_
  dsimp only
  -- The store looks for the seat and for the student as the advice did, and under the same guard.
  refine unswayed_ensureRoom (fun full => refuses_claimedBy ?_) (unswayed_claimedBy ?_)
  · cases mine with
    | cons existing others => exact Action.refuses_fail _
    | nil =>
      refine Action.refuses_check fun _ => Action.refuses_newId fun id minted => Action.refuses_insert ?_
      exact Store.answer_insert_unfit housed (.inl full)
  · cases mine with
    | cons existing others => exact .misled (.inr nofun)
    | nil =>
      cases held : s.store.register.claimedBy queue ⟨d.exclusiveFrom schedule, farFuture⟩ caller.email with
      | nil => exact Action.unswayed_check fun _ => Action.unswayed_newId fun id t => Action.unswayed_call rfl
      | cons existing others =>
        refine Action.compares_of_refuses ?_ (Action.refuses_fail _)
        refine Action.refuses_check fun _ => Action.refuses_newId fun id minted => Action.refuses_insert ?_
        refine Store.answer_insert_unfit housed (.inr ?_)
        unfold Register.conflict?
        dsimp only
        rw [held]
        rfl

theorem unswayed_move (d : Desk) (appointment : Id) (current : Slot) (timeslot : UInt32) (details : Details)
    (caller : Caller) : Action.Unswayed ids seats mine s (d.move appointment current timeslot details caller) := by
  unfold move
  dsimp only
  cases weekdayBounds d.today d.now d.zone with
  | none => exact Action.unswayed_of_eq rfl
  | some w =>
    refine unswayed_timeslotCapacity fun schedule capacity housed => ?_
    dsimp only
    split
    · exact Action.unswayed_of_eq rfl
    · refine Action.unswayed_check fun _ => unswayed_ensureRoom (fun full => ?_) ?_
      · refine Action.refuses_newId fun id minted => (Action.refuses_insert ?_).bind
        exact Store.answer_insert_unfit housed (.inl full)
      · refine Action.unswayed_newId fun id t => (Action.unswayed_call rfl).bind fun created u _ => ?_
        refine Action.Unswayed.bind (Action.unswayed_of_eq rfl) fun released v _ => ?_
        cases released <;> exact Action.unswayed_of_eq rfl

theorem unswayed_updateAppointment (d : Desk) (appointment : Id) (draft : Draft) (caller : Caller) :
    Action.Unswayed ids seats mine s (d.updateAppointment appointment draft caller) := by
  unfold updateAppointment
  refine Action.unswayed_check fun _ => (Action.unswayed_call rfl).bind fun current t _ => ?_
  split
  · exact Action.unswayed_of_eq rfl
  · refine Action.unswayed_check fun _ => Action.unswayed_check fun details => ?_
    dsimp only
    split
    · exact (Action.unswayed_call rfl).bind fun _ _ _ => Action.unswayed_of_eq rfl
    · exact (d.unswayed_move appointment current _ details caller).bind fun _ _ _ => Action.unswayed_of_eq rfl

end Desk

namespace Action

variable {α : Type} {ids : Nat → Id} {seats mine : List Slot} {s : Service}

theorem Compares.granted {a : α} {t : Service} {seeing : Except BookingError α × Service}
    (compares : Compares seats mine (.ok a, t) seeing) : seeing = (.ok a, t) := by
  cases compares
  rfl

theorem Compares.blind {advised seeing : Except BookingError α × Service} (compares : Compares [] [] advised seeing) :
    ((∃ a, advised.1 = .ok a) ↔ ∃ a, seeing.1 = .ok a) ∧ advised.2.store = seeing.2.store := by
  cases compares with
  | same => exact ⟨Iff.rfl, rfl⟩
  | refused kept => exact ⟨⟨nofun, nofun⟩, kept⟩
  | misled rows => simp at rows

/-- A request to which it makes no difference what the store says of seats and rows before it is asked to insert: where
the request is granted, it is granted on the true answers too, with the same outcome; and where the store says that
there are no rows, the request is granted if it is on the true answers, and the store ends as it does on those. -/
structure SettledByStore (ids : Nat → Id) (s : Service) (x : Action α) : Prop where
  harmless : ∀ seats mine a t, x.outcome (Service.advised ids seats mine) s = (.ok a, t) →
    x.outcome (Service.world ids Service.noFaults) s = (.ok a, t)
  redundant : (∃ a, (x.outcome (Service.advised ids [] []) s).1 = .ok a) ↔
    ∃ a, (x.outcome (Service.world ids Service.noFaults) s).1 = .ok a
  store : (x.outcome (Service.advised ids [] []) s).2.store =
    (x.outcome (Service.world ids Service.noFaults) s).2.store

theorem settledByStore {x : Action α} (unswayed : ∀ seats mine, x.Unswayed ids seats mine s) :
    x.SettledByStore ids s := by
  have blind : Compares [] [] _ _ := unswayed [] []
  refine ⟨fun seats mine a t granted => ?_, blind.blind.1, blind.blind.2⟩
  have compares : Compares seats mine _ _ := unswayed seats mine
  rw [granted] at compares
  exact compares.granted

end Action

namespace Service

/-- The seats and the rows that a signup or a move looks up first decide nothing, as the store looks for them again when
it inserts. Both runs take their identifier from one supply. -/
theorem advice_decides_nothing (ids : Nat → Id) (d : Desk) (s : Service) :
    (∀ queue weekday timeslot draft caller, (d.signup queue weekday timeslot draft caller).SettledByStore ids s) ∧
      ∀ appointment draft caller, (d.updateAppointment appointment draft caller).SettledByStore ids s := by
  constructor
  · intro queue weekday timeslot draft caller
    exact Action.settledByStore fun _ _ => d.unswayed_signup queue weekday timeslot draft caller
  · intro appointment draft caller
    exact Action.settledByStore fun _ _ => d.unswayed_updateAppointment appointment draft caller

def lateSignup (timeslot : UInt32) : Action Slot :=
  let draft : Draft := { name := some "Dee", description := some "limits", location := some "room 1" }
  (Desk.mk Zone.utc 1700000240000).signup (Id.ofNat 7) 3 timeslot draft ⟨"dee@x.edu", false⟩

theorem advice_decides_nothing_lateSignup :
    let ids := fun n => Id.ofNat (n + 1)
    let s := (start {}).visits ids Zone.utc wednesday
    (∃ row, ((lateSignup 0).outcome (world ids noFaults) s).1 = .ok row) ∧
      ((lateSignup 1).outcome (advised ids [] []) s).2.minted = s.minted + 1 ∧
        ((lateSignup 1).outcome (world ids noFaults) s).2.minted = s.minted ∧
          ((lateSignup 1).outcome (advised ids [] []) s).2.store =
            ((lateSignup 1).outcome (world ids noFaults) s).2.store := by
  intro ids s
  have settled : ∀ timeslot, (lateSignup timeslot).SettledByStore ids s := fun timeslot =>
    (advice_decides_nothing ids (Desk.mk Zone.utc 1700000240000) s).1 _ _ _ _ _
  have granted : ((lateSignup 0).outcome (advised ids [] []) s).1.toOption.isSome = true := by decide +kernel
  refine ⟨(settled 0).redundant.mp ?_, by decide +kernel, by decide +kernel, (settled 1).store⟩
  generalize ((lateSignup 0).outcome (advised ids [] []) s).1 = answer at granted
  cases answer with
  | ok row => exact ⟨row, rfl⟩
  | error e => cases granted

end Service

end Bookings
