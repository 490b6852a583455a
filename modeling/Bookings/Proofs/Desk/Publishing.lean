import Bookings.Proofs.Desk.View
import Bookings.Proofs.Store.Presence
import Mathlib.Algebra.BigOperators.Group.List.Basic
import Mathlib.Algebra.GroupWithZero.Nat

namespace Bookings

theorem sum_map_of_single {α : Type} [DecidableEq α] {l : List α} {a : α} {f : α → Nat} (distinct : l.Nodup)
    (member : a ∈ l) (others : ∀ b ∈ l, b ≠ a → f b = 0) : (l.map f).sum = f a := by
  rw [List.sum_map_eq_nsmul_single a f fun b differs listed => others b listed differs,
    List.count_eq_one_of_mem distinct member, one_nsmul]

namespace Capacities

theorem nodup_toList {c : Capacities} (small : c.size ≤ minutesPerDay) : c.toList.Nodup := by
  have numbered : c.toList.map (fun seats => seats.1.toNat) = c.digits.zipIdx.map Prod.snd := by
    rw [toList, List.map_map]
    apply List.map_congr_left
    rintro ⟨digit, i⟩ listed
    have bound := (List.mem_zipIdx' listed).1
    rw [size, minutesPerDay] at small
    exact UInt32.toNat_ofNat_of_lt' (by rw [UInt32.size]; omega)
  apply List.Nodup.of_map fun seats => seats.1.toNat
  rw [numbered, List.zipIdx_map_snd]
  exact List.nodup_range'

end Capacities

theorem Plan.run_mintEach {β γ : Type} (ids : Nat → Id) (faults : Faults) (f : γ → Id → β) (items : List γ)
    (made : List β) (s : Service) :
    (mintEach f made items).run (Service.world ids faults) s =
      (made.reverse ++ items.zipWith f (s.coming ids (s.minted + items.length)),
        { s with minted := s.minted + items.length }) := by
  induction items generalizing made s with
  | nil =>
    rw [List.zipWith_nil_left, List.append_nil]
    rfl
  | cons item items ih =>
    have more : s.minted + (item :: items).length = s.minted + 1 + items.length := by
      rw [List.length_cons, Nat.add_assoc, Nat.add_comm 1]
    rw [more, Service.coming_cons (by omega), List.zipWith_cons_cons]
    refine (ih (f item (ids s.minted) :: made) { s with minted := s.minted + 1 }).trans ?_
    rw [List.reverse_cons, List.append_assoc]
    rfl

namespace Desk

/-- By how many rows a timeslot falls short of its capacity; one that has started is left as it is. -/
def shortage (d : Desk) (start : Instant) (capacity present : Nat) : Nat :=
  if start < d.now then 0 else capacity - present

def shortfall (d : Desk) (schedule : Schedule) (w : Span) (present : UInt32 → Nat) : Nat :=
  (schedule.capacities.toList.map fun seats =>
    d.shortage (schedule.startOf w seats.1) seats.2 (present seats.1)).sum

section

variable {d : Desk} {schedule : Schedule} {w : Span} {rows : List Slot} {timeslot : UInt32} {capacity : Nat}

theorem length_missingSeats : (d.missingSeats schedule w rows).length =
    d.shortfall schedule w fun timeslot => rows.countP fun row => row.timeslot = timeslot := by
  rw [missingSeats, List.length_flatMap, shortfall]
  congr 1
  apply List.map_congr_left
  rintro ⟨timeslot, capacity⟩ _
  dsimp only [shortage]
  split
  · rfl
  · exact List.length_replicate

theorem countP_missingSeats (valid : schedule.validate = .ok ()) (seats : schedule.capacityAt timeslot = some capacity) :
    (d.missingSeats schedule w rows).countP (fun place => place.1 = timeslot) =
      d.shortage (schedule.startOf w timeslot) capacity (rows.countP fun row => row.timeslot = timeslot) := by
  have small := Schedule.size_le valid
  have listed : (timeslot, capacity) ∈ schedule.capacities.toList := (Capacities.mem_toList small).mpr seats
  rw [missingSeats, List.countP_flatMap, sum_map_of_single (Capacities.nodup_toList small) listed]
  · dsimp only [Function.comp_apply, shortage]
    split
    · rfl
    · rw [List.countP_replicate, if_pos (decide_eq_true rfl)]
  · -- No other entry is for this timeslot.
    rintro ⟨other, seating⟩ member differs
    have elsewhere : other ≠ timeslot := by
      rintro rfl
      have found := (Capacities.mem_toList small).mp member
      cases found.symm.trans seats
      exact differs rfl
    dsimp only [Function.comp_apply]
    split
    · rfl
    · rw [List.countP_replicate, if_neg (by simpa using elsewhere)]

theorem countP_missingSeats_beyond (beyond : schedule.capacityAt timeslot = none) :
    (d.missingSeats schedule w rows).countP (fun place => place.1 = timeslot) = 0 := by
  rw [List.countP_eq_zero]
  rintro ⟨other, start⟩ member same
  cases of_decide_eq_true same
  have inside := (mem_missingSeats member).1
  rw [Schedule.capacityAt, Capacities.at?, Option.map_eq_none_iff, List.getElem?_eq_none_iff] at beyond
  exact absurd inside (Nat.not_lt.mpr beyond)

theorem missingSeats_eq_nil (full : ∀ timeslot capacity, schedule.capacityAt timeslot = some capacity →
    d.now ≤ schedule.startOf w timeslot → capacity ≤ rows.countP fun row => row.timeslot = timeslot)
    (valid : schedule.validate = .ok ()) : d.missingSeats schedule w rows = [] := by
  rw [missingSeats, List.flatMap_eq_nil_iff]
  rintro ⟨timeslot, capacity⟩ listed
  have seats := (Capacities.mem_toList (Schedule.size_le valid)).mp listed
  dsimp only
  split
  · rfl
  · rename_i ahead
    have enough := full timeslot capacity seats (Int64.not_lt.mp ahead)
    rw [Nat.sub_eq_zero_of_le enough, List.replicate_zero]

end

section

variable {queue : Id} {schedule : Schedule} {details : Details} {places : List (UInt32 × Instant)} {ids : List Id}
  (enough : ids.length = places.length)

include enough

theorem length_openRows : (openRows queue schedule details places ids).length = places.length := by
  rw [openRows, List.length_zipWith, enough, Nat.min_self]

theorem countP_openRows (times : Instant → Bool) (timeslot : UInt32) :
    (openRows queue schedule details places ids).countP (Slot.placed times timeslot) =
      places.countP fun place => place.1 = timeslot && times place.2 := by
  have kept : (openRows queue schedule details places ids).map (fun row => (row.timeslot, row.scheduledTime)) = places := by
    rw [openRows, List.map_zipWith, ← List.map_uncurry_zip_eq_zipWith]
    exact List.map_fst_zip (Nat.le_of_eq enough.symm)
  conv_rhs => rw [← kept, List.countP_map]
  rfl

end

theorem countP_openRows_missing {d : Desk} {queue : Id} {weekday : UInt8} {schedule : Schedule} {w : Span}
    {details : Details} {rows : List Slot} {ids : List Id}
    (enough : ids.length = (d.missingSeats schedule w rows).length) (valid : schedule.validate = .ok ())
    (bounds : weekdayBounds weekday d.now d.zone = some w) (timeslot : UInt32) :
    (openRows queue schedule details (d.missingSeats schedule w rows) ids).countP (Slot.placed w.contains timeslot) =
      (schedule.capacityAt timeslot).elim 0 fun capacity =>
        d.shortage (schedule.startOf w timeslot) capacity (rows.countP fun row => row.timeslot = timeslot) := by
  have inside : ∀ place ∈ d.missingSeats schedule w rows, w.contains place.2 = true := by
    intro place member
    obtain ⟨low, same⟩ := mem_missingSeats member
    rw [same]
    exact Schedule.contains_startOf valid bounds low
  have same : (d.missingSeats schedule w rows).countP (fun place => place.1 = timeslot && w.contains place.2) =
      (d.missingSeats schedule w rows).countP fun place => place.1 = timeslot := by
    refine List.countP_congr fun place member => ?_
    rw [inside place member, Bool.and_true]
  rw [countP_openRows enough, same]
  cases seats : schedule.capacityAt timeslot with
  | none => exact countP_missingSeats_beyond seats
  | some capacity => exact countP_missingSeats valid seats

section

variable {d : Desk} {ids : Nat → Id} {s : Service} {queue : Id} {weekday : UInt8} {template : Draft} {details : Details}
  {caller : Caller} {w : Span} {schedule : Schedule}

def publication (d : Desk) (ids : Nat → Id) (queue : Id) (schedule : Schedule) (w : Span) (details : Details)
    (s : Service) : List Slot :=
  let places := d.missingSeats schedule w (s.store.register.within queue w)
  openRows queue schedule details places (s.coming ids (s.minted + places.length))

theorem outcome_publishOpenSlots (admin : Rules.admin caller = .ok ()) (texts : Rules.details template = .ok details)
    (bounds : weekdayBounds weekday d.now d.zone = some w)
    (stored : s.store.register.schedule? queue weekday = some schedule) :
    (d.publishOpenSlots queue weekday template caller).outcome (Service.world ids Service.noFaults) s =
      ((s.store.answer (.publish queue (d.publication ids queue schedule w details s))).1.mapError BookingError.ofStore,
        ⟨(s.store.answer (.publish queue (d.publication ids queue schedule w details s))).2,
          s.minted + (d.missingSeats schedule w (s.store.register.within queue w)).length⟩) := by
  have seen : (Action.call (.within queue w)).outcome (Service.world ids Service.noFaults) s =
      (.ok (s.store.register.within queue w), s) := rfl
  have drawn : ∀ {γ : Type} (f : γ → Id → Slot) (items : List γ),
      (Action.mintEach f items).outcome (Service.world ids Service.noFaults) s =
        (.ok (items.zipWith f (s.coming ids (s.minted + items.length))),
          { s with minted := s.minted + items.length }) := by
    intro γ f items
    have ran := Plan.run_mintEach ids Service.noFaults f items [] s
    unfold Action.outcome Action.mintEach
    rw [ExceptT.run_mk, Plan.run_bind, ran]
    rfl
  unfold publishOpenSlots
  rw [Action.outcome_bind, Action.outcome_check, admin]
  dsimp only
  rw [Action.outcome_bind, Action.outcome_check, texts]
  dsimp only
  rw [Action.outcome_bind, Action.outcome_check, (window_of_bounds bounds).2]
  dsimp only
  rw [Action.outcome_bind, outcome_requireSchedule_stored, stored, Option.elim_some]
  dsimp only
  rw [Action.outcome_bind, seen]
  dsimp only
  rw [Action.outcome_bind, drawn]
  rfl

theorem scheduled_of_published {count : Nat}
    (granted : ((d.publishOpenSlots queue weekday template caller).outcome (Service.world ids Service.noFaults) s).1 =
      .ok count) :
    ∃ w schedule, weekdayBounds weekday d.now d.zone = some w ∧
      s.store.register.schedule? queue weekday = some schedule := by
  have ended : (d.publishOpenSlots queue weekday template caller).Ends ids Service.noFaults s fun answer _ =>
      answer = .ok count → ∃ w schedule, weekdayBounds weekday d.now d.zone = some w ∧
        s.store.register.schedule? queue weekday = some schedule := by
    refine (d.tells_publishes queue weekday template caller).ends ?_
    intro told answer t answers _ story granted
    generalize s.coming ids t.minted = taken at story
    cases story with
    | refused quiet => contradiction
    | asked quiet admin texts bounds stored seen enough =>
      obtain ⟨_, heard⟩ := answers.of_quiet quiet
      exact ⟨_, _, bounds, (Store.scheduleFor_eq_ok (heard _ stored)).symm⟩
  exact ended granted

theorem publish_eq_ok {count : Nat} (admin : Rules.admin caller = .ok ()) (texts : Rules.details template = .ok details)
    (granted : ((d.publishOpenSlots queue weekday template caller).outcome (Service.world ids Service.noFaults) s).1 =
      .ok count) :
    ∃ w schedule, weekdayBounds weekday d.now d.zone = some w ∧
      s.store.register.schedule? queue weekday = some schedule ∧
      s.store.answer (.publish queue (d.publication ids queue schedule w details s)) = (.ok count,
        ((d.publishOpenSlots queue weekday template caller).outcome (Service.world ids Service.noFaults) s).2.store) := by
  obtain ⟨w, schedule, bounds, stored⟩ := scheduled_of_published granted
  refine ⟨w, schedule, bounds, stored, ?_⟩
  rw [outcome_publishOpenSlots admin texts bounds stored] at granted ⊢
  exact Prod.ext (eq_ok_of_mapError granted) rfl

theorem countP_within_eq (sorted : (s.store.register.content queue).Sorted) :
    (fun timeslot => (s.store.register.within queue w).countP fun row => row.timeslot = timeslot) =
      s.store.register.present queue w.contains := by
  funext timeslot
  rw [Register.within_eq]
  exact Queue.countP_within sorted

theorem length_publication (d : Desk) (ids : Nat → Id) (details : Details) (schedule : Schedule) (w : Span)
    (sorted : (s.store.register.content queue).Sorted) :
    (d.publication ids queue schedule w details s).length =
      d.shortfall schedule w (s.store.register.present queue w.contains) := by
  rw [publication, length_openRows, length_missingSeats, countP_within_eq sorted]
  rw [Service.coming, Nat.add_sub_cancel_left, List.length_map, List.length_range']

theorem countP_publication (ids : Nat → Id) (details : Details) (sorted : (s.store.register.content queue).Sorted)
    (valid : schedule.validate = .ok ()) (bounds : weekdayBounds weekday d.now d.zone = some w) (timeslot : UInt32) :
    (d.publication ids queue schedule w details s).countP (Slot.placed w.contains timeslot) =
      (schedule.capacityAt timeslot).elim 0 fun capacity =>
        d.shortage (schedule.startOf w timeslot) capacity (s.store.register.present queue w.contains timeslot) := by
  have counted := congrFun (countP_within_eq (w := w) sorted) timeslot
  rw [publication, ← counted]
  refine countP_openRows_missing ?_ valid bounds timeslot
  rw [Service.coming, Nat.add_sub_cancel_left, List.length_map, List.length_range']

end

/-- The timeslots of a day that have not started are topped up to their capacities, and nothing else has changed. -/
structure ToppedUp (d : Desk) (queue : Id) (weekday : UInt8) (details : Details) (r after : Register) (count : Nat)
    (w : Span) (schedule : Schedule) : Prop where
  bounds : weekdayBounds weekday d.now d.zone = some w
  stored : r.schedule? queue weekday = some schedule
  total : count = d.shortfall schedule w (r.present queue w.contains)
  topped : ∀ timeslot capacity, schedule.capacityAt timeslot = some capacity → d.now ≤ schedule.startOf w timeslot →
    after.present queue w.contains timeslot = max (r.present queue w.contains timeslot) capacity
  left : ∀ timeslot, (∀ capacity, schedule.capacityAt timeslot = some capacity → schedule.startOf w timeslot < d.now) →
    after.present queue w.contains timeslot = r.present queue w.contains timeslot
  rows : ∃ opened, opened.length = count ∧ (∀ row ∈ opened, row.student = none ∧ row.details = details) ∧
    (after.rows queue).Perm (opened ++ r.rows queue)
  elsewhere : ∀ other, other ≠ queue → after.content other = r.content other
  schedules : after.schedule? = r.schedule?

section

variable {d : Desk} {ids : Nat → Id} {s : Service} {queue : Id} {weekday : UInt8} {details : Details}
  {w : Span} {schedule : Schedule} {count : Nat} {t : Store}

theorem toppedUp_of_published (sorted : (s.store.register.content queue).Sorted) (valid : schedule.validate = .ok ())
    (bounds : weekdayBounds weekday d.now d.zone = some w)
    (stored : s.store.register.schedule? queue weekday = some schedule)
    (asked : s.store.answer (.publish queue (d.publication ids queue schedule w details s)) = (.ok count, t)) :
    d.ToppedUp queue weekday details s.store.register t.register count w schedule := by
  obtain ⟨whole, done⟩ := Store.publish_eq_ok (Register.isSome_queue?_of_schedule? stored) asked
  have total := whole.trans (length_publication d ids details schedule w sorted)
  have added := countP_publication ids details sorted valid bounds
  have grown : ∀ timeslot, t.register.present queue w.contains timeslot = s.store.register.present queue w.contains timeslot +
      (d.publication ids queue schedule w details s).countP (Slot.placed w.contains timeslot) := by
    intro timeslot
    rcases done with ⟨none, rfl⟩ | ⟨_, result⟩
    · rw [none]
      rfl
    · rw [result, Register.present_slotsPublished]
  constructor
  · exact bounds
  · exact stored
  · exact total
  · intro timeslot capacity seats ahead
    rw [grown, added, seats, Option.elim_some, shortage, if_neg (Int64.not_lt.mpr ahead)]
    omega
  · intro timeslot started
    rw [grown, added]
    cases seats : schedule.capacityAt timeslot with
    | none => rfl
    | some capacity =>
      rw [Option.elim_some, shortage, if_pos (started capacity seats)]
      rfl
  · refine ⟨(d.publication ids queue schedule w details s).map (Slot.published queue), ?_, ?_, ?_⟩
    · rw [List.length_map, whole]
    · intro row member
      obtain ⟨slot, published, rfl⟩ := List.mem_map.mp member
      obtain ⟨place, _, id, rfl⟩ := exists_of_mem_zipWith published
      exact ⟨rfl, rfl⟩
    · rcases done with ⟨none, rfl⟩ | ⟨_, result⟩
      · rw [none]
        exact List.Perm.refl _
      · rw [result]
        have rows := s.store.register.rows_apply_self
          (.slotsPublished queue ((d.publication ids queue schedule w details s).map (Slot.published queue)))
        rw [Event.queue] at rows
        rw [rows]
        exact Queue.rows_foldl_insert_perm _ _
  · intro other differs
    rcases done with ⟨_, rfl⟩ | ⟨_, result⟩
    · rfl
    · rw [result]
      exact Register.content_apply_other _ _ differs
  · rcases done with ⟨_, rfl⟩ | ⟨_, result⟩
    · rfl
    · rw [result]
      exact Register.schedule?_apply _ fun _ _ same => Event.noConfusion same

theorem publish_again {template : Draft} {caller : Caller} (sorted : (s.store.register.content queue).Sorted)
    (valid : schedule.validate = .ok ()) (bounds : weekdayBounds weekday d.now d.zone = some w)
    (stored : s.store.register.schedule? queue weekday = some schedule)
    (full : ∀ timeslot capacity, schedule.capacityAt timeslot = some capacity → d.now ≤ schedule.startOf w timeslot →
      capacity ≤ s.store.register.present queue w.contains timeslot)
    (admin : Rules.admin caller = .ok ()) (texts : Rules.details template = .ok details) :
    (d.publishOpenSlots queue weekday template caller).outcome (Service.world ids Service.noFaults) s = (.ok 0, s) := by
  have none : d.missingSeats schedule w (s.store.register.within queue w) = [] := by
    refine missingSeats_eq_nil (fun timeslot capacity seats ahead => ?_) valid
    have counted := congrFun (countP_within_eq (w := w) sorted) timeslot
    rw [counted]
    exact full timeslot capacity seats ahead
  have nothing : d.publication ids queue schedule w details s = [] := by
    rw [publication, none]
    rfl
  rw [outcome_publishOpenSlots admin texts bounds stored, nothing, none, Store.answer_publish_nil]
  rfl

theorem claim_of_shown {timeslot : UInt32} {capacity : Nat} {caller : Caller} (working : s.store.journal.Working)
    (sorted : (s.store.register.content queue).Sorted) (known : Rules.caller caller = .ok ())
    (bounds : weekdayBounds weekday d.now d.zone = some w)
    (stored : s.store.register.schedule? queue weekday = some schedule)
    (seats : schedule.capacityAt timeslot = some capacity) (ahead : d.now ≤ schedule.startOf w timeslot)
    (left : s.store.register.taken queue w.contains timeslot < capacity)
    (full : capacity ≤ s.store.register.present queue w.contains timeslot) :
    ∃ slot, ((d.claimTimeslot queue weekday timeslot caller).outcome (Service.world ids Service.noFaults) s).1 =
      .ok slot := by
  have waiting : Rules.notStarted (schedule.startOf w timeslot) d.now = .ok () := by
    rw [Rules.notStarted, if_neg (Int64.not_lt.mpr ahead)]
  obtain ⟨row, first⟩ := Queue.vacant_of_taken_lt sorted (Nat.lt_of_lt_of_le left full)
  have room := (Queue.hasRoom_atTimeslot_iff timeslot sorted w capacity).mpr left
  obtain ⟨slot, t, claimed⟩ := Store.answer_claim working (Register.isSome_queue?_of_schedule? stored) room first
    caller.email
  show (d.claimTimeslot queue weekday timeslot caller).Ends ids Service.noFaults s fun answer _ =>
    ∃ slot, answer = .ok slot
  unfold claimTimeslot
  refine Action.ends_check known (Action.ends_check (window_of_bounds bounds).2 ?_)
  refine ends_timeslotCapacity stored seats (Action.ends_check waiting ?_)
  have asked : s.store.answerWith Service.noFaults (.claim queue w timeslot capacity caller.email) = (.ok slot, t) := claimed
  unfold Action.Ends
  rw [Action.run_call, asked]
  exact ⟨slot, rfl⟩

end

end Desk

namespace Service

variable {ids : Nat → Id} {s : Service} {plans : List (Plan Response)}

/-- Publishing tops the timeslots of a day that have not started up to their capacities and changes nothing else. At
the same time it has nothing left to do, and every seat that the view shows can be claimed. It is refused as a whole,
and exactly when the queue would hold too many rows. -/
theorem publish_tops_up {d : Desk} {queue : Id} {weekday : UInt8} {template : Draft} {details : Details}
    {caller : Caller} (reached : Reached ids d.zone s plans) (distinct : ((List.range s.minted).map ids).Nodup)
    (admin : Rules.admin caller = .ok ()) (texts : Rules.details template = .ok details) :
    let publish := fun template caller s =>
      (d.publishOpenSlots queue weekday template caller).outcome (world ids noFaults) s
    let published := publish template caller s
    (∀ count, published.1 = .ok count →
      (∃ w schedule, d.ToppedUp queue weekday details s.store.register published.2.store.register count w schedule) ∧
      (∀ more texts other, Rules.details more = .ok texts → Rules.admin other = .ok () →
        publish more other published.2 = (.ok 0, published.2)) ∧
      (published.2.store.journal.Working → ∀ claimer timeslot entries, Rules.caller claimer = .ok () →
        ((d.timeslotAvailability queue weekday).outcome (world ids noFaults) published.2).1 = .ok entries →
          d.ShowsSeat entries timeslot →
            ∃ slot, ((d.claimTimeslot queue weekday timeslot claimer).outcome (world ids noFaults) published.2).1 =
              .ok slot)) ∧
    (s.store.journal.Working → ∀ w schedule, weekdayBounds weekday d.now d.zone = some w →
      s.store.register.schedule? queue weekday = some schedule →
        ((∃ e, published.1 = .error e) ↔ maxSlotsPerQueue < (s.store.register.rows queue).length +
          d.shortfall schedule w (s.store.register.present queue w.contains)) ∧
        ∀ e, published.1 = .error e →
          e = .ofStore (.limitExceeded "too many appointments in queue") ∧ published.2.store = s.store) := by
  dsimp only
  generalize ran : (d.publishOpenSlots queue weekday template caller).outcome (world ids noFaults) s = published
  obtain ⟨used, consistent, lawful⟩ := reached.sound distinct
  have sorted := consistent.formed.orderly.sorted
  refine ⟨fun count granted => ?_, fun working w schedule bounds stored => ?_⟩
  · rw [← ran] at granted
    obtain ⟨w, schedule, bounds, stored, asked⟩ := Desk.publish_eq_ok admin texts granted
    rw [ran] at asked
    have valid := lawful.sound.valid queue weekday schedule stored
    have topped := Desk.toppedUp_of_published (sorted queue) valid bounds stored asked
    have after : (published.2.store.register.content queue).Sorted := by
      have kept := Store.sorted_answerWith sorted noFaults
        (.publish queue (d.publication ids queue schedule w details s)) queue
      change ((s.store.answer _).2.register.content queue).Sorted at kept
      rw [asked] at kept
      exact kept
    have still : published.2.store.register.schedule? queue weekday = some schedule := by rw [topped.schedules, stored]
    have full : ∀ timeslot capacity, schedule.capacityAt timeslot = some capacity → d.now ≤ schedule.startOf w timeslot →
        capacity ≤ published.2.store.register.present queue w.contains timeslot := by
      intro timeslot capacity seats ahead
      rw [topped.topped timeslot capacity seats ahead]
      exact Nat.le_max_right _ _
    refine ⟨⟨w, schedule, topped⟩, ?_, ?_⟩
    · intro more texts other passed again
      exact Desk.publish_again after valid bounds still full again passed
    · rintro working claimer timeslot entries known shown ⟨entry, listed, rfl, left, ahead⟩
      rw [Desk.outcome_timeslotAvailability after] at shown
      obtain ⟨v, found, same, there, rfl⟩ := Desk.view_eq_ok_iff.mp shown
      cases bounds.symm.trans same
      cases still.symm.trans there
      obtain ⟨timeslot, capacity, seats, rfl⟩ := (Schedule.mem_shown valid).mp listed
      dsimp only at left ahead ⊢
      exact Desk.claim_of_shown working after known bounds still seats ahead (by omega) (full timeslot capacity seats ahead)
  · have housed := Register.isSome_queue?_of_schedule? stored
    have bounded := consistent.bounded queue
    have total := d.length_publication ids details schedule w (sorted queue)
    rw [Desk.outcome_publishOpenSlots admin texts bounds stored] at ran
    rw [← total]
    generalize d.publication ids queue schedule w details s = slots at ran
    by_cases filled : slots = []
    · rw [filled, Store.answer_publish_nil] at ran
      subst ran filled
      exact ⟨⟨nofun, fun crowded => absurd crowded (Nat.not_lt.mpr bounded)⟩, nofun⟩
    · by_cases small : (s.store.register.rows queue).length + slots.length ≤ maxSlotsPerQueue
      · obtain ⟨k, _, answered⟩ := Store.answer_publish housed filled working small
        rw [answered] at ran
        subst ran
        exact ⟨⟨nofun, fun crowded => absurd small (Nat.not_le.mpr crowded)⟩, nofun⟩
      · have crowded := Nat.lt_of_not_le small
        rw [Store.answer_publish_crowded housed filled crowded] at ran
        subst ran
        refine ⟨⟨fun _ => crowded, fun _ => ⟨_, rfl⟩⟩, ?_⟩
        rintro e same
        cases same
        exact ⟨rfl, rfl⟩

theorem publish_tops_up_partlyBooked :
    let ids := fun n => Id.ofNat (n + 1)
    let d := Desk.mk Zone.utc 1700000120000
    let draft : Draft := { name := some "Bob", description := some "limits", location := some "room 1" }
    let booking : Visit := ⟨1700000060000, .signup (Id.ofNat 7) 3 1 draft ⟨"bob@x.edu", false⟩, noFaults⟩
    let s := (start {}).visits ids Zone.utc (wednesday.take 1 ++ [booking])
    let publish := fun s => (d.publishOpenSlots (Id.ofNat 7) 3 draft ⟨"staff@x.edu", true⟩).outcome (world ids noFaults) s
    let published := publish s
    published.1 = .ok 2 ∧ (∃ w schedule details,
      d.ToppedUp (Id.ofNat 7) 3 details s.store.register published.2.store.register 2 w schedule) ∧
      publish published.2 = (.ok 0, published.2) ∧ ∃ slot,
        ((d.claimTimeslot (Id.ofNat 7) 3 1 ⟨"cyd@x.edu", false⟩).outcome (world ids noFaults) published.2).1 = .ok slot := by
  intro ids d draft booking s publish published
  have started : Reached ids Zone.utc (start {}) [] := .started rfl
  obtain ⟨plans, reached⟩ := started.visits (wednesday.take 1 ++ [booking])
  have texts : Rules.details draft = .ok ⟨"Bob", "limits", "room 1", .zero, .zero⟩ := by decide +kernel
  have granted : published.1 = .ok 2 := by decide +kernel
  have working : published.2.store.journal.Working :=
    ⟨by decide +kernel, by decide +kernel, by decide +kernel⟩
  have shown : ((d.timeslotAvailability (Id.ofNat 7) 3).outcome (world ids noFaults) published.2).1 =
      .ok [⟨0, 1700006400000, 1, 1⟩, ⟨1, 1700008200000, 2, 1⟩] := by decide +kernel
  have seat : d.ShowsSeat [⟨0, 1700006400000, 1, 1⟩, ⟨1, 1700008200000, 2, 1⟩] 1 :=
    ⟨_, List.mem_cons_of_mem _ List.mem_cons_self, rfl, by decide, by decide⟩
  have topped := @publish_tops_up ids s plans d (Id.ofNat 7) 3 draft ⟨"Bob", "limits", "room 1", .zero, .zero⟩
    ⟨"staff@x.edu", true⟩ reached (by decide +kernel) rfl texts
  have same : (d.publishOpenSlots (Id.ofNat 7) 3 draft ⟨"staff@x.edu", true⟩).outcome (world ids noFaults) s = published :=
    rfl
  dsimp only at topped
  rw [same] at topped
  -- What is evaluated about the outcome is known by now.
  clear_value published
  obtain ⟨⟨w, schedule, whole⟩, again, claims⟩ := topped.1 2 granted
  refine ⟨granted, ⟨w, schedule, _, whole⟩, again draft _ ⟨"staff@x.edu", true⟩ texts rfl, ?_⟩
  exact claims working ⟨"cyd@x.edu", false⟩ 1 _ (by decide +kernel) shown seat

end Service

end Bookings
