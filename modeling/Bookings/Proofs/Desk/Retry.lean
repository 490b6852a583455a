import Bookings.Proofs.Desk.Atomicity
import Bookings.Proofs.Desk.UnderWay

namespace Bookings

namespace Store

theorem answer_move {s : Store} {old new : Slot} {email : String} {w : Span} {capacity : Nat}
    (formed : s.register.WellFormed) (working : s.journal.Working) (member : old ∈ s.register.rows old.queue)
    (held : old.student = some email) (own : new.queue = old.queue) (fresh : s.register.Fresh [new.id])
    (few : (s.register.rows old.queue).length < maxSlotsPerQueue)
    (room : s.register.taken old.queue w.contains new.timeslot < capacity) :
    ∃ j k, s.answer (.insert new ⟨w, capacity, none⟩) = (.ok new, ⟨s.register.apply (.slotCreated new), j⟩) ∧
      answer ⟨s.register.apply (.slotCreated new), j⟩ (.release old.id email) =
        (.ok true, ⟨(s.register.apply (.slotCreated new)).apply (.claimReleased old.id old.queue), k⟩) := by
  have housed := Register.isSome_queue? member
  have seated := (Queue.hasRoom_atTimeslot_iff new.timeslot (formed.orderly.sorted old.queue) w capacity).mpr room
  rw [← Register.atTimeslot_eq] at seated
  rw [← own] at housed few seated
  obtain ⟨j, ready, inserted⟩ : ∃ k, k.Working ∧ s.answer (.insert new ⟨w, capacity, none⟩) =
      (.ok new, ⟨s.register.apply (.slotCreated new), k⟩) := answer_insert working housed few seated rfl
  have still := Register.resolve_slotCreated formed.orderly fresh (formed.resolve_of_mem member)
  obtain ⟨k, _, released⟩ := answer_release (s := ⟨_, j⟩) ready still held
  exact ⟨j, k, inserted, released⟩

end Store

namespace Desk

section

variable {β : Type} {ids : Nat → Id} {s : Service} {ends : Except BookingError β → Service → Prop} {queue : Id}

theorem ends_timeslotCapacity {weekday : UInt8} {timeslot : UInt32} {schedule : Schedule} {capacity : Nat}
    {f : Schedule × Nat → Action β} (stored : s.store.register.schedule? queue weekday = some schedule)
    (seats : schedule.capacityAt timeslot = some capacity)
    (next : (f (schedule, capacity)).Ends ids Service.noFaults s ends) :
    (timeslotCapacity queue weekday timeslot >>= f).Ends ids Service.noFaults s ends := by
  have asked : s.store.answerWith Service.noFaults (.scheduleFor queue weekday) = (.ok (some schedule), s.store) := by
    rw [← stored]
    rfl
  apply Action.ends_bind
  unfold timeslotCapacity requireSchedule
  apply Action.ends_bind
  refine Action.ends_call asked (Action.ends_pure ?_)
  simp only [seats]
  exact Action.ends_pure next

theorem ends_ensureRoom {w : Span} {timeslot : UInt32} {capacity : Nat} {f : Unit → Action β}
    (sorted : (s.store.register.content queue).Sorted)
    (full : capacity ≤ s.store.register.taken queue w.contains timeslot →
      ends (.error (.noOpenSlots timeslot capacity)) s)
    (room : s.store.register.taken queue w.contains timeslot < capacity → (f ()).Ends ids Service.noFaults s ends) :
    (ensureRoom queue w timeslot capacity >>= f).Ends ids Service.noFaults s ends := by
  have seats := Queue.hasRoom_atTimeslot_iff timeslot sorted w capacity
  rw [← Register.atTimeslot_eq] at seats
  apply Action.ends_bind
  unfold ensureRoom
  refine Action.ends_call (t := s.store) rfl ?_
  by_cases left : s.store.register.taken queue w.contains timeslot < capacity
  · rw [if_pos (seats.mpr left)]
    exact Action.ends_pure (room left)
  · rw [if_neg fun some => left (seats.mp some)]
    exact Action.ends_fail (full (Nat.not_lt.mp left))

end

theorem Replaces.eq {d : Desk} {draft : Draft} {caller : Caller} {w : Span} {old new : Slot}
    (replaces : d.Replaces draft caller w old new) :
    ⟨new.id, old.queue, new.timeslot, slotStart w new.timeslot old.duration, old.duration, some caller.email,
      new.details⟩ = new := by
  rw [← replaces.start, ← replaces.queue, ← replaces.duration, ← replaces.claimed]

theorem ends_move {d : Desk} {ids : Nat → Id} {s : Service} {draft : Draft} {caller : Caller} {w : Span}
    {schedule : Schedule} {capacity : Nat} {old new : Slot} {ends : Except BookingError Update → Service → Prop}
    (known : Rules.caller caller = .ok ()) (formed : s.store.register.WellFormed) (working : s.store.journal.Working)
    (member : old ∈ s.store.register.rows old.queue) (replaces : d.Replaces draft caller w old new)
    (drawn : ids s.minted = new.id) (fresh : s.store.register.Fresh [new.id])
    (stored : s.store.register.schedule? old.queue d.today = some schedule)
    (seats : schedule.capacityAt new.timeslot = some capacity)
    (full : capacity ≤ s.store.register.taken old.queue w.contains new.timeslot →
      ends (.error (.noOpenSlots new.timeslot capacity)) s)
    (crowded : s.store.register.taken old.queue w.contains new.timeslot < capacity →
      maxSlotsPerQueue ≤ (s.store.register.rows old.queue).length →
        ends (.error (.store (.limitExceeded "too many appointments in queue"))) ⟨s.store, s.minted + 1⟩)
    (moved : s.store.register.taken old.queue w.contains new.timeslot < capacity →
      (s.store.register.rows old.queue).length < maxSlotsPerQueue → ∀ k, ends (.ok (.moved new))
        ⟨⟨(s.store.register.apply (.slotCreated new)).apply (.claimReleased old.id old.queue), k⟩, s.minted + 1⟩) :
    (d.updateAppointment old.id draft caller).Ends ids Service.noFaults s ends := by
  have found := formed.resolve_of_mem member
  have held : old.student = some caller.email := beq_iff_eq.mp replaces.owned
  have claimed : old.isClaimed = true := by simp [Slot.isClaimed, held]
  have own : Rules.owner old caller = .ok () := by simp [Rules.owner, replaces.owned]
  have fetched : s.store.answerWith Service.noFaults (.fetch old.id) = (.ok old, s.store) := by
    show ((s.store.register.resolve old.id).map Prod.snd, s.store) = _
    rw [found]
    rfl
  have fits := replaces.fits
  have ahead := replaces.ahead
  rw [replaces.start, replaces.duration] at fits
  rw [replaces.start] at ahead
  unfold updateAppointment
  refine Action.ends_check known (Action.ends_call fetched ?_)
  simp only [claimed, Bool.not_true, Bool.false_eq_true, if_false]
  refine Action.ends_check own (Action.ends_check replaces.texts ?_)
  simp only [replaces.requested, Option.getD_some, replaces.differs, if_false]
  apply Action.ends_bind
  unfold move
  simp only [replaces.bounds]
  refine ends_timeslotCapacity stored seats ?_
  simp only [fits, Bool.not_true, Bool.false_eq_true, if_false]
  -- The timeslot is looked at before an identifier is drawn, the number of rows only behind that.
  refine Action.ends_check ahead (ends_ensureRoom (formed.orderly.sorted _) full fun room => ?_)
  apply Action.ends_newId
  rw [drawn, replaces.eq]
  by_cases few : (s.store.register.rows old.queue).length < maxSlotsPerQueue
  · obtain ⟨j, k, inserted, released⟩ := Store.answer_move formed working member held replaces.queue fresh few room
    refine Action.ends_call inserted (Action.ends_attempt released ?_)
    exact Action.ends_pure (moved room few k)
  · have many := Nat.not_lt.mp few
    have housed := Register.isSome_queue? member
    have crowd := many
    rw [← replaces.queue] at housed crowd
    exact Action.ends_refused (Store.answer_insert_crowded housed crowd) (crowded room many)

/-- A student holds the row that was to be moved and the one that was to take its place. -/
structure Halfway (d : Desk) (draft : Draft) (caller : Caller) (w : Span) (r : Register) (old new : Slot) : Prop where
  replaces : d.Replaces draft caller w old new
  stays : old ∈ r.rows old.queue
  created : new ∈ r.rows old.queue

theorem halfway_of_incomplete {d : Desk} {s t : Store} {faults : Faults} {appointment created stale : Id} {draft : Draft}
    {caller : Caller} {told : List Exchange} {taken : List Id} {cause : StoreError}
    (story : d.Revises appointment draft caller told taken (.error (.moveIncomplete created stale cause)))
    (answers : s.Answers faults told t) (formed : s.register.WellFormed) (fresh : s.register.Fresh taken)
    (truthful : ∀ student, faults .fetch ≠ some (.showsStudent student)) :
    Rules.caller caller = .ok () ∧ appointment = stale ∧ ∃ old new w schedule capacity, old.id = stale ∧
      new.id = created ∧ d.Halfway draft caller w t.register old new ∧
        t.register.schedule? old.queue d.today = some schedule ∧ schedule.capacityAt new.timeslot = some capacity := by
  generalize answered : (Except.error (.moveIncomplete created stale cause) : Except BookingError Update) = answer
    at story
  cases story with
  | refused quiet plain =>
    cases answered
    contradiction
  | edited quiet texts =>
    rename_i details a
    cases a with
    | ok done => cases answered
    | error e => cases e <;> cases answered
  | full quiet fetched named =>
    rename_i current new guard e
    cases e <;> cases answered
  | moved quiet fetched replaces known lookup =>
    rename_i told old new made w schedule capacity a
    obtain ⟨⟨between, inserted, _, released, rfl⟩, heard⟩ := answers.of_quiet quiet
    cases a with
    | ok gone => cases answered
    | error e =>
      cases answered
      cases (Store.inserted_row inserted).1
      have found := truthful_row formed truthful (heard _ fetched)
      obtain ⟨member, named⟩ := Queue.mem_of_slot? (Register.resolve_eq_ok found).2
      obtain ⟨present, schedules, kept⟩ :=
        Store.rows_after_move formed fresh (heard _ fetched) inserted released replaces.claimed
      rw [replaces.queue] at present
      have stays := (kept member (beq_iff_eq.mp replaces.owned)).resolve_right nofun
      have stored := lookup.scheduled heard
      rw [← schedules] at stored
      exact ⟨known, rfl, old, new, w, schedule, capacity, named, rfl, ⟨replaces, stays, present⟩, stored, lookup.seats⟩

/-- What the same update comes to when it is made again: it is refused and the student keeps both rows, as the one that
was to take the place of the other has a seat like any; or it makes a third row beside it. -/
inductive Retries (w : Span) (capacity : Nat) (r : Register) (old new : Slot) :
    Except BookingError Update → Register → Prop
  | full (seats : capacity ≤ r.taken old.queue w.contains new.timeslot) :
      Retries w capacity r old new (.error (.noOpenSlots new.timeslot capacity)) r
  | crowded (seats : r.taken old.queue w.contains new.timeslot < capacity)
      (many : maxSlotsPerQueue ≤ (r.rows old.queue).length) :
      Retries w capacity r old new (.error (.store (.limitExceeded "too many appointments in queue"))) r
  | doubled {third : Slot} {t : Register} (seats : r.taken old.queue w.contains new.timeslot < capacity)
      (few : (r.rows old.queue).length < maxSlotsPerQueue) (twin : third = { new with id := third.id })
      (gains : r.Gains third (Slot.vacated old.id) t) (stays : new ∈ t.rows old.queue) :
      Retries w capacity r old new (.ok (.moved third)) t

theorem kept_by_gain {r t : Register} {new row : Slot} {id : Id} (gains : r.Gains new (Slot.vacated id) t)
    (member : row ∈ r.rows new.queue) (other : row.id ≠ id) : row ∈ t.rows new.queue := by
  obtain ⟨front, back, before, after⟩ := gains.rows
  have same : row.vacated id = row := if_neg other
  rw [before, List.mem_append] at member
  rw [after, List.mem_append, List.mem_cons]
  rcases member with early | late
  · exact .inl (same ▸ List.mem_map_of_mem early)
  · exact .inr (.inr (same ▸ List.mem_map_of_mem late))

theorem ends_retry {d : Desk} {ids : Nat → Id} {s : Service} {draft : Draft} {caller : Caller} {w : Span}
    {schedule : Schedule} {capacity : Nat} {old new : Slot} (known : Rules.caller caller = .ok ())
    (formed : s.store.register.WellFormed) (working : s.store.journal.Working)
    (halfway : d.Halfway draft caller w s.store.register old new) (fresh : s.store.register.Fresh [ids s.minted])
    (stored : s.store.register.schedule? old.queue d.today = some schedule)
    (seats : schedule.capacityAt new.timeslot = some capacity) :
    (d.updateAppointment old.id draft caller).Ends ids Service.noFaults s fun answer t =>
      Retries w capacity s.store.register old new answer t.store.register := by
  obtain ⟨replaces, stays, created⟩ := halfway
  have own := replaces.queue
  have again : d.Replaces draft caller w old { new with id := ids s.minted } :=
    ⟨replaces.owned, replaces.claimed, own, replaces.duration, replaces.requested, replaces.differs, replaces.texts,
      replaces.bounds, replaces.start, replaces.fits, replaces.ahead⟩
  have unused : s.store.register.Fresh [({ new with id := ids s.minted } : Slot).id] := fresh
  refine ends_move known formed working stays again rfl unused stored seats (fun taken => .full taken)
    (fun left many => .crowded left many) fun left few k => ?_
  -- The row of the first attempt is neither the one that is made now nor the one that is given up.
  have grown := (formed.slotCreated unused).orderly.distinct new.queue
  rw [← own] at stays created
  have gains := (Register.gains_slotCreated unused).vacate grown stays
  have apart : new.id ≠ old.id := fun same =>
    replaces.differs (congrArg Slot.timeslot (List.inj_on_of_nodup_map (formed.orderly.distinct _) created stays same))
  have there := kept_by_gain gains created apart
  dsimp only
  rw [← own]
  refine .doubled left few rfl gains ?_
  rw [← own]
  exact there

end Desk

namespace Service

variable {ids : Nat → Id} {zone : Zone} {disk : Log.Disk} {vs : List Visit}

/-- Where a move has left its student with both rows, the same request made again at the same time is refused and changes
nothing if the timeslot or the queue is full, and otherwise gives them a third row, beside the second, for the first. -/
theorem retried_move_ends {s : Service} {now : Instant} {appointment created stale : Id} {draft : Draft}
    {caller : Caller} {faults : Faults} {cause : StoreError} (blank : disk.bytes = []) (working : disk.Working)
    (truthful : ∀ student, faults .fetch ≠ some (.showsStudent student))
    (reached : s = (start disk).visits ids zone (vs ++ [⟨now, .updateAppointment appointment draft caller, faults⟩]))
    (fresh : ((List.range (s.minted + 1)).map ids).Nodup)
    (incomplete : ((start disk).visits ids zone vs).reply ids zone
      ⟨now, .updateAppointment appointment draft caller, faults⟩ = .error (.moveIncomplete created stale cause)) :
    ∃ old new w, old.id = stale ∧ new.id = created ∧
      (Desk.mk zone now).Halfway draft caller w s.store.register old new ∧
        ((Desk.mk zone now).updateAppointment appointment draft caller).Ends ids noFaults s fun answer t =>
          Desk.Retries w (Schedules.capacity s.store.register.schedule? old.queue (Desk.mk zone now).today new.timeslot)
            s.store.register old new answer t.store.register := by
  obtain ⟨told, answers, story⟩ := told_visit (v := ⟨now, .updateAppointment appointment draft caller, faults⟩)
    ((Desk.mk zone now).tells_updateAppointment appointment draft caller) ((start disk).visits ids zone vs)
  rw [incomplete] at story
  have after : s = ((start disk).visits ids zone vs).visit ids zone
      ⟨now, .updateAppointment appointment draft caller, faults⟩ := reached.trans (visits_append _ _ _)
  rw [← after] at answers story
  have earlier := fresh
  rw [List.range_succ, List.map_append] at earlier
  have drawn := (List.nodup_append.mp earlier).1
  rw [reached] at drawn
  obtain ⟨before, _⟩ := safe_before_last blank drawn
  rw [← reached] at before
  have behind : s.Safe (Register.Timely zone) ids (s.minted + 1) [] := by
    rw [reached] at fresh ⊢
    exact timely_visits blank fresh (Nat.le_succ _)
  have working : s.store.journal.Working := by
    rw [reached]
    exact working_visits working
  obtain ⟨known, rfl, old, new, w, schedule, capacity, named, created, halfway, stored, seats⟩ :=
    Desk.halfway_of_incomplete story answers before.holds.formed before.fresh truthful
  subst named
  refine ⟨old, new, w, rfl, created, halfway, ?_⟩
  rw [Schedules.capacity_eq stored seats]
  exact Desk.ends_retry known behind.holds.formed working halfway (behind.fresh_next (Nat.lt_succ_self _)) stored seats

theorem retried_move_ends_lateMove :
    let draft : Draft := ⟨some 11, some "Ada", some "limits", some "room 1", none, none⟩
    let ada : Caller := ⟨"ada@x.edu", false⟩
    let move : Visit := ⟨1700038800000, .updateAppointment (Id.ofNat 1) draft ada, Desk.stuckRelease⟩
    let desk : Desk := ⟨Zone.utc, 1700038800000⟩
    let s := (start {}).visits (fun n => Id.ofNat (n + 1)) Zone.utc (lateMove.take 2 ++ [move])
    ((start {}).visits (fun n => Id.ofNat (n + 1)) Zone.utc (lateMove.take 2)).reply (fun n => Id.ofNat (n + 1)) Zone.utc
        ⟨1700038800000, .updateAppointment (Id.ofNat 1) draft ada, Desk.stuckRelease⟩ =
          .error (.moveIncomplete (Id.ofNat 2) (Id.ofNat 1) (.logFailed (.reported "stuck"))) ∧
      ∃ old new w, old.id = Id.ofNat 1 ∧ new.id = Id.ofNat 2 ∧
        desk.Halfway draft ada w s.store.register old new ∧
          (desk.updateAppointment (Id.ofNat 1) draft ada).Ends (fun n => Id.ofNat (n + 1)) noFaults s fun answer t =>
            Desk.Retries w (Schedules.capacity s.store.register.schedule? old.queue desk.today new.timeslot)
              s.store.register old new answer t.store.register := by
  intro draft ada move desk s
  have incomplete : ((start {}).visits (fun n => Id.ofNat (n + 1)) Zone.utc (lateMove.take 2)).reply
      (fun n => Id.ofNat (n + 1)) Zone.utc
      ⟨1700038800000, .updateAppointment (Id.ofNat 1) draft ada, Desk.stuckRelease⟩ =
        .error (.moveIncomplete (Id.ofNat 2) (Id.ofNat 1) (.logFailed (.reported "stuck"))) := by decide +kernel
  have truthful : ∀ student, Desk.stuckRelease .fetch ≠ some (.showsStudent student) := nofun
  have fresh : ((List.range (s.minted + 1)).map fun n => Id.ofNat (n + 1)).Nodup := by decide +kernel
  exact ⟨incomplete, retried_move_ends rfl ⟨rfl, rfl⟩ truthful rfl fresh incomplete⟩

/-- The one seat at eleven is taken by the row that the first attempt has left there. -/
theorem retried_move_refused :
    let draft : Draft := ⟨some 11, some "Ada", some "limits", some "room 1", none, none⟩
    let ada : Caller := ⟨"ada@x.edu", false⟩
    let move : Visit := ⟨1700038800000, .updateAppointment (Id.ofNat 1) draft ada, Desk.stuckRelease⟩
    let again : Visit := ⟨1700038800000, .updateAppointment (Id.ofNat 1) draft ada, noFaults⟩
    ((start {}).visits (fun n => Id.ofNat (n + 1)) Zone.utc (lateMove.take 2)).reply (fun n => Id.ofNat (n + 1)) Zone.utc
        ⟨1700038800000, .updateAppointment (Id.ofNat 1) draft ada, Desk.stuckRelease⟩ =
          .error (.moveIncomplete (Id.ofNat 2) (Id.ofNat 1) (.logFailed (.reported "stuck"))) ∧
      ((start {}).visits (fun n => Id.ofNat (n + 1)) Zone.utc (lateMove.take 2 ++ [move])).reply
        (fun n => Id.ofNat (n + 1)) Zone.utc ⟨1700038800000, .updateAppointment (Id.ofNat 1) draft ada, noFaults⟩ =
          .error (.noOpenSlots 11 1) ∧
      (((start {}).visits (fun n => Id.ofNat (n + 1)) Zone.utc (lateMove.take 2 ++ [move, again])).store.register.rows
        (Id.ofNat 7)).map (fun row => (row.id, row.student)) =
          [(Id.ofNat 1, some ada.email), (Id.ofNat 2, some ada.email)] := by decide +kernel

end Service

end Bookings
