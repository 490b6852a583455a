import Bookings.Proofs.Desk.Disclosure

namespace Bookings

namespace Register

variable {r t : Register} {id : Id}

def Vacant (r : Register) (id : Id) : Prop := ∃ queue, ∃ row ∈ r.rows queue, row.id = id ∧ row.student = none

theorem Vacant.of_same (vacant : r.Vacant id) (same : t.Same r) : t.Vacant id := by
  obtain ⟨queue, row, member, named, free⟩ := vacant
  rw [← same.rows] at member
  exact ⟨queue, row, member, named, free⟩

theorem Vacant.resolve (vacant : r.Vacant id) (formed : r.WellFormed) :
    ∃ queue row, r.resolve id = .ok (queue, row) ∧ row.isClaimed = false := by
  obtain ⟨queue, row, member, rfl, free⟩ := vacant
  refine ⟨queue, row, formed.resolve_of_mem member, ?_⟩
  rw [Slot.isClaimed, free, Option.isSome_none]

theorem Admits.vacant_of_release {email : String} {e : Event} {a : Except StoreError Bool}
    (admitted : r.Admits (.release id email) e a) (orderly : r.Orderly) : (r.apply e).Vacant id := by
  cases admitted with
  | release indexed present held =>
    rename_i home slot
    obtain ⟨member, named⟩ := Queue.mem_of_slot? present
    refine ⟨home, { slot with student := none }, ?_, named, rfl⟩
    have self : (r.apply (.claimReleased id home)).rows home = ((r.content home).setStudent id none).rows :=
      rows_apply_self r (.claimReleased id home)
    rw [self, Queue.setStudent, Queue.rows_modify (orderly.distinct home)]
    exact List.mem_map.mpr ⟨slot, member, if_pos named⟩

theorem Advances.vacant {x : Exchange} (advances : r.Advances x t) (vacant : r.Vacant id) :
    t.Vacant id ∨ ∃ queue w timeslot capacity email row, row.id = id ∧
      x = ⟨.claim queue w timeslot capacity email, .ok row⟩ := by
  obtain ⟨queue, row, member, named, free⟩ := vacant
  obtain ⟨new, present, lives⟩ := exists_of_mem_sublistForall₂ (advances.rows queue) member
  have kept : new.id = id := by rw [lives.stays, named]
  cases held : new.student with
  | none => exact .inl ⟨queue, new, present, kept, held⟩
  | some email =>
    obtain ⟨home, w, timeslot, capacity, claimed⟩ := lives.claimed free held
    exact .inr ⟨home, w, timeslot, capacity, email, new, kept, claimed⟩

end Register

theorem Response.ofError_ne_empty (e : BookingError) (status : Status) : ofError e ≠ empty status := by
  intro same
  cases congrArg Response.error same

namespace Desk

theorem tells_removed (d : Desk) (id : Id) (caller : Caller) :
    (d.dispatch (.removeSignup id caller)).Tells (fun told taken response => response = .empty .noContent →
      taken = [] ∧ ∃ current, told = [⟨.fetch id, .ok current⟩, ⟨.release id caller.email, .ok true⟩]) [] [] := by
  have other {e : BookingError} {P : Prop} (same : Response.ofError e = .empty .noContent) : P :=
    absurd same (Response.ofError_ne_empty e _)
  apply tells_respond
  unfold removeSignup
  refine Action.tells_check (fun _ _ => ?_) fun e _ => other
  refine Action.tells_call (fun current => ?_) fun e => other
  split
  · exact Action.tells_pure nofun
  · refine Action.tells_check (fun _ _ => ?_) fun e _ => other
    refine Action.tells_check (fun _ _ => ?_) fun e _ => other
    refine Action.tells_call (fun gone => ?_) fun e => other
    cases gone with
    | true => exact Action.tells_pure fun _ => ⟨rfl, current, rfl⟩
    | false => exact Action.tells_pure nofun

variable {s : Service} {id : Id} {other : Caller}

theorem fetch_vacant (formed : s.store.register.WellFormed) (vacant : s.store.register.Vacant id) :
    ∃ row, s.store.answerWith Service.noFaults (.fetch id) = (.ok row, s.store) ∧ row.isClaimed = false := by
  obtain ⟨queue, row, found, free⟩ := vacant.resolve formed
  refine ⟨row, ?_, free⟩
  show ((s.store.register.resolve id).map Prod.snd, s.store) = _
  rw [found]
  rfl

theorem removeSignup_vacant (d : Desk) (formed : s.store.register.WellFormed) (vacant : s.store.register.Vacant id)
    (ids : Nat → Id) (known : Rules.caller other = .ok ()) :
    (d.removeSignup id other).outcome (Service.world ids Service.noFaults) s = (.ok .alreadyVacated, s) := by
  obtain ⟨row, asked, free⟩ := fetch_vacant formed vacant
  refine Prod.ext_iff.mpr (?_ : (d.removeSignup id other).Ends ids Service.noFaults s fun answer t =>
    answer = .ok .alreadyVacated ∧ t = s)
  unfold removeSignup
  refine Action.ends_check known (Action.ends_call asked ?_)
  simp only [free, Bool.not_false, if_true]
  exact Action.ends_pure ⟨rfl, rfl⟩

theorem updateAppointment_vacant (d : Desk) (formed : s.store.register.WellFormed)
    (vacant : s.store.register.Vacant id) (ids : Nat → Id) (draft : Draft) (known : Rules.caller other = .ok ()) :
    (d.updateAppointment id draft other).outcome (Service.world ids Service.noFaults) s =
      (.error (.appointmentVacated id), s) := by
  obtain ⟨row, asked, free⟩ := fetch_vacant formed vacant
  refine Prod.ext_iff.mpr (?_ : (d.updateAppointment id draft other).Ends ids Service.noFaults s fun answer t =>
    answer = .error (.appointmentVacated id) ∧ t = s)
  unfold updateAppointment
  refine Action.ends_check known (Action.ends_call asked ?_)
  simp only [free, Bool.not_false, if_true]
  exact Action.ends_fail ⟨rfl, rfl⟩

end Desk

theorem Plan.claims_of_claim {r : Request} {p : Plan Response} {told : List Exchange} {taken : List Id} {queue : Id}
    {w : Span} {timeslot : UInt32} {capacity : Nat} {email : String} {row : Slot}
    (tells : p.Tells (Desk.Discloses r) (told ++ [⟨.claim queue w timeslot capacity email, .ok row⟩]) taken) :
    ∃ queue weekday timeslot caller, r = .claimTimeslot queue weekday timeslot caller := by
  obtain ⟨more, drawn, response, discloses⟩ := tells.exists_end
  have heard := List.mem_append_left more (List.mem_append_right told (List.mem_singleton_self
    (⟨.claim queue w timeslot capacity email, .ok row⟩ : Exchange)))
  rcases discloses.voices heard rfl with never | ⟨queue, weekday, timeslot, caller, _, _, asked, _⟩
  · exact absurd never id
  · exact ⟨queue, weekday, timeslot, caller, asked⟩

def Json.shownId? (v : Json) : Option Id := (v.fields? ["id"]).bind fun found => found.head?.join.bind id?

theorem Slot.shownId?_toJson (row : Slot) : row.toJson.shownId? = some row.id := by
  have found : row.toJson.fields? ["id"] = some [some (.str row.id.text)] := rfl
  simp only [Json.shownId?, found, Option.bind_some, List.head?_cons, Option.join_some, Json.id?, Json.string?,
    Id.ofText?_text]

namespace Service

/-- A claim was answered with the row, and had not been earlier. -/
def Reclaimed (id : Id) (requests : List (Instant × Request)) (earlier plans : List (Plan Response)) : Prop :=
  ∃ (j : Nat) (now : Instant) (queue : Id) (weekday : UInt8) (timeslot : UInt32) (caller : Caller) (row : Slot),
    requests[j]? = some (now, .claimTimeslot queue weekday timeslot caller) ∧ row.id = id ∧
      plans[j]? = some (.done (.withBody .created row.toJson)) ∧
        earlier[j]? ≠ some (.done (.withBody .created row.toJson))

def Told (requests : List (Instant × Request)) (plans : List (Plan Response)) : Prop :=
  ∀ (j : Nat) (p : Plan Response), plans[j]? = some p → ∃ now r told taken,
    requests[j]? = some (now, r) ∧ p.Tells (Desk.Discloses r) told taken

variable {ids : Nat → Id} {zone : Zone} {faults : Faults} {s : Service} {requests : List (Instant × Request)}
  {plans earlier : List (Plan Response)} {i : Nat} {id : Id}

theorem told_arrivals (zone : Zone) (requests : List (Instant × Request)) :
    Told requests (requests.map fun a => (Desk.mk zone a.1).dispatch a.2) := by
  intro j p chosen
  rw [List.getElem?_map, Option.map_eq_some_iff] at chosen
  obtain ⟨⟨now, r⟩, requested, rfl⟩ := chosen
  exact ⟨now, r, [], [], requested, (Desk.discreet_dispatch _ r).tells⟩

theorem Told.step {p : Plan Response} (told : Told requests plans) (chosen : plans[i]? = some p) (w : World Service)
    (s : Service) : Told requests (plans.set i (p.step w s).1) := by
  intro j q found
  by_cases own : i = j
  · subst own
    rw [List.getElem?_set_self (List.getElem?_eq_some_iff.mp chosen).1] at found
    cases found
    obtain ⟨now, r, heard, taken, requested, tells⟩ := told i p chosen
    obtain ⟨drawn, later⟩ := tells.step w s
    exact ⟨now, r, _, _, requested, later⟩
  · rw [List.getElem?_set_ne own] at found
    exact told j q found

theorem Told.interleave (told : Told requests plans) (w : World Service) (turns : List Nat) (s : Service) :
    Told requests (Plan.interleave w turns plans s).1 := by
  induction turns generalizing s plans with
  | nil => exact told
  | cons i turns ih =>
    rw [Plan.interleave]
    cases chosen : plans[i]? with
    | none => exact ih told s
    | some p => exact ih (told.step chosen w s) _

structure GivenUp (id : Id) (requests : List (Instant × Request)) (earlier : List (Plan Response)) (s : Service)
    (plans : List (Plan Response)) : Prop where
  vacant : s.store.register.Vacant id ∨ Reclaimed id requests earlier plans
  told : Told requests plans
  kept : ∀ (j : Nat) (response : Response), earlier[j]? = some (.done response) → plans[j]? = some (.done response)

theorem GivenUp.step {p : Plan Response} (given : GivenUp id requests earlier s plans)
    (orderly : s.store.register.Orderly) (chosen : plans[i]? = some p) :
    GivenUp id requests earlier (p.step (world ids faults) s).2 (plans.set i (p.step (world ids faults) s).1) := by
  obtain ⟨vacant, told, kept⟩ := given
  have done := done_set (s := s) chosen (world ids faults)
  refine ⟨?_, told.step chosen _ s, fun j response answered => done j response (kept j response answered)⟩
  rcases vacant with vacant | ⟨j, now, queue, weekday, timeslot, caller, row, requested, named, answered, new⟩
  · cases p with
    | done response => exact .inl vacant
    | mint next => exact .inl vacant
    | ask c next =>
      have advances := (s.store.outcome_answerWith faults c).advances orderly
      rcases advances.vacant vacant with still | ⟨home, w, timeslot, capacity, email, row, named, claimed⟩
      · exact .inl still
      · right
        obtain ⟨now, r, heard, taken, requested, tells⟩ := told i _ chosen
        have later : (next (s.store.answerWith faults c).1).Tells (Desk.Discloses r)
            (heard ++ [⟨c, (s.store.answerWith faults c).1⟩]) taken := tells _
        rw [claimed] at later
        obtain ⟨queue, weekday, slot, caller, rfl⟩ := Plan.claims_of_claim later
        have moved : (plans.set i (next (s.store.answerWith faults c).1))[i]? =
            some (.done (.withBody .created (Slot.toJson row))) := by
          rw [List.getElem?_set_self (List.getElem?_eq_some_iff.mp chosen).1, Plan.done_of_claim later]
        refine ⟨i, now, queue, weekday, slot, caller, row, requested, named, moved, fun answered => ?_⟩
        cases chosen.symm.trans (kept i _ answered)
  · exact .inr ⟨j, now, queue, weekday, timeslot, caller, row, requested, named, done j _ answered, new⟩

variable {now : Instant} {caller : Caller}

theorem vacant_of_removed {p : Plan Response} {told : List Exchange} {taken : List Id}
    (tells : p.Tells (fun told taken response => response = .empty .noContent →
      taken = [] ∧ ∃ current, told = [⟨.fetch id, .ok current⟩, ⟨.release id caller.email, .ok true⟩]) told taken)
    (orderly : s.store.register.Orderly) (pending : p ≠ .done (.empty .noContent))
    (removed : (p.step (world ids faults) s).1 = .done (.empty .noContent)) :
    (p.step (world ids faults) s).2.store.register.Vacant id := by
  cases p with
  | done response => exact absurd removed pending
  | mint next =>
    have later : (next (ids s.minted)).Tells _ told (taken ++ [ids s.minted]) := tells _
    have removed : next (ids s.minted) = .done (.empty .noContent) := removed
    rw [removed] at later
    exact absurd (List.append_eq_nil_iff.mp (later rfl).1).2 (List.cons_ne_nil _ _)
  | ask c next =>
    have later : (next (s.store.answerWith faults c).1).Tells _
        (told ++ [⟨c, (s.store.answerWith faults c).1⟩]) taken := tells _
    have removed : next (s.store.answerWith faults c).1 = .done (.empty .noContent) := removed
    rw [removed] at later
    obtain ⟨_, current, whole⟩ := later rfl
    have whole : told ++ [⟨c, (s.store.answerWith faults c).1⟩] =
        [⟨.fetch id, .ok current⟩] ++ [⟨.release id caller.email, .ok true⟩] := whole
    have last : (⟨c, (s.store.answerWith faults c).1⟩ : Exchange) = ⟨.release id caller.email, .ok true⟩ :=
      List.singleton_inj.mp (List.append_inj_right' whole rfl)
    have outcome := s.store.outcome_answerWith faults c
    have moved : ((Plan.ask c next).step (world ids faults) s).2.store = (s.store.answerWith faults c).2 := rfl
    rw [moved]
    generalize s.store.answerWith faults c = answered at last outcome ⊢
    obtain ⟨answer, t⟩ := answered
    cases last
    obtain ⟨e, admitted, same⟩ := outcome.applied rfl
    exact (admitted.vacant_of_release orderly).of_same same

/-- Requests take turns in any order from any state that a service reaches. Once a removal is answered with success,
and as long as no claim is answered with its row, anyone who removes the signup again or wants to update it, at any
time, is told that nobody holds it, and neither the state nor the log changes. -/
theorem cancelled_stays_cancelled (reached : Reached ids zone s []) (requests : List (Instant × Request))
    (faults : Faults) (turns more : List Nat) {caller : Caller}
    (requested : requests[i]? = some (now, .removeSignup id caller)) :
    let w := world ids faults
    let begun := Plan.interleave w turns (requests.map fun a => (Desk.mk zone a.1).dispatch a.2) s
    let ended := Plan.interleave w [i] begun.1 begun.2
    let after := Plan.interleave w more ended.1 ended.2
    begun.1[i]? ≠ some (.done (.empty .noContent)) → ended.1[i]? = some (.done (.empty .noContent)) →
      ¬ Reclaimed id requests ended.1 after.1 → ((List.range after.2.minted).map ids).Nodup →
        ∀ (d : Desk) (other : Caller), Rules.caller other = .ok () →
          (d.removeSignup id other).outcome (world ids noFaults) after.2 = (.ok .alreadyVacated, after.2) ∧
            ∀ draft, (d.updateAppointment id draft other).outcome (world ids noFaults) after.2 =
              (.error (.appointmentVacated id), after.2) := by
  intro w begun ended after pending removed unclaimed distinct d other known
  have arrived := reached.arrivals requests
  rw [List.nil_append] at arrived
  have first : Reached ids zone begun.2 begun.1 := arrived.interleave faults turns
  have second : Reached ids zone ended.2 ended.1 := first.interleave faults [i]
  have last : Reached ids zone after.2 after.1 := second.interleave faults more
  have counted : begun.2.minted ≤ ended.2.minted := Plan.minted_le_interleave ids faults [i] begun.1 begun.2
  have enough : ended.2.minted ≤ after.2.minted := Plan.minted_le_interleave ids faults more ended.1 ended.2
  have orderly : begun.2.store.register.Orderly := by
    obtain ⟨_, consistent, _⟩ := first.sound
      (distinct.sublist ((List.range_sublist.mpr (Nat.le_trans counted enough)).map ids))
    exact consistent.formed.orderly
  have formed : after.2.store.register.WellFormed := by
    obtain ⟨_, consistent, _⟩ := last.sound distinct
    exact consistent.formed
  have vacant : ended.2.store.register.Vacant id := by
    have own : (requests.map fun a => (Desk.mk zone a.1).dispatch a.2)[i]? =
        some ((Desk.mk zone now).dispatch (.removeSignup id caller)) := by
      rw [List.getElem?_map, requested, Option.map_some]
    obtain ⟨p, drawn, chosen, tells⟩ := (Desk.tells_removed ⟨zone, now⟩ id caller).interleave w turns s own
    have chosen : begun.1[i]? = some p := chosen
    have stepped : ended = (begun.1.set i (p.step w begun.2).1, (p.step w begun.2).2) := by
      simp only [ended, Plan.interleave, chosen]
    rw [stepped, List.getElem?_set_self (List.getElem?_eq_some_iff.mp chosen).1] at removed
    rw [stepped]
    refine vacant_of_removed tells orderly (fun same => pending ?_) (Option.some.inj removed)
    rw [chosen, same]
  have told : Told requests ended.1 := ((told_arrivals zone requests).interleave w turns s).interleave w [i] begun.2
  have given : GivenUp id requests ended.1 after.2 after.1 := by
    refine second.interleave_keeps distinct (fun s plans j p reached minted chosen given => ?_)
      ⟨.inl vacant, told, fun _ _ answered => answered⟩
    obtain ⟨_, consistent, _⟩ := reached.sound minted
    exact given.step consistent.formed.orderly chosen
  have still := given.vacant.resolve_right unclaimed
  exact ⟨d.removeSignup_vacant formed still ids known,
    fun draft => d.updateAppointment_vacant formed still ids draft known⟩

def twoCancelled : List (Instant × Request) :=
  let ada : Caller := ⟨"ada@x.edu", false⟩
  let cyd : Caller := ⟨"cyd@x.edu", false⟩
  [(1700006400000, .updateSchedule (Id.ofNat 7) 3 ⟨"staff@x.edu", true⟩ ⟨60, "111111111111"⟩),
    (1700006400000, .signup (Id.ofNat 7) 3 10 ada ⟨none, some "Ada", some "limits", some "room 1", none, none⟩),
    (1700006400000, .signup (Id.ofNat 7) 3 11 cyd ⟨none, some "Cyd", some "series", some "room 2", none, none⟩),
    (1700006400000, .removeSignup (Id.ofNat 1) ada), (1700006400000, .removeSignup (Id.ofNat 2) cyd),
    (1700006400000, .claimTimeslot (Id.ofNat 7) 3 11 ⟨"bob@x.edu", false⟩)]

theorem cancelled_stays_cancelled_twoCancelled :
    let ids := fun n => Id.ofNat (n + 1)
    let w := world ids noFaults
    let begun := Plan.interleave w ((List.range 3).flatMap (List.replicate 8) ++ [3])
      (twoCancelled.map fun a => (Desk.mk Zone.utc a.1).dispatch a.2) (start {})
    let ended := Plan.interleave w [3] begun.1 begun.2
    let after := Plan.interleave w ([4, 5].flatMap (List.replicate 8)) ended.1 ended.2
    (after.1.map fun p => p.answer?.map Response.status) =
        [some 204, some 201, some 201, some 204, some 204, some 201] ∧
      ((Desk.mk Zone.utc 1700046000000).removeSignup (Id.ofNat 1) ⟨"ada@x.edu", false⟩).outcome w after.2 =
        (.ok .alreadyVacated, after.2) ∧
        ((Desk.mk Zone.utc 1700046000000).updateAppointment (Id.ofNat 1) {} ⟨"ada@x.edu", false⟩).outcome w after.2 =
          (.error (.appointmentVacated (Id.ofNat 1)), after.2) := by
  intro ids w begun ended after
  have statuses : (after.1.map fun p => p.answer?.map Response.status) =
      [some 204, some 201, some 201, some 204, some 204, some 201] := by decide +kernel
  have waiting : (begun.1[3]?.bind Plan.answer?).isNone = true := by decide +kernel
  have removed : (ended.1[3]?.bind Plan.answer?).map (fun r => (r.status, r.body.isNone, r.error)) =
      some (204, true, none) := by decide +kernel
  have shown : (after.1[5]?.bind Plan.answer?).map (fun r => r.items.map Json.shownId?) = some [some (Id.ofNat 2)] := by
    decide +kernel
  have pending : begun.1[3]? ≠ some (.done (.empty .noContent)) := by
    intro done
    rw [done] at waiting
    cases waiting
  have succeeded : ended.1[3]? = some (.done (.empty .noContent)) := by
    obtain ⟨⟨status, body, error⟩, answered, same⟩ := Option.map_eq_some_iff.mp removed
    obtain ⟨p, present, done⟩ := Option.bind_eq_some_iff.mp answered
    cases body with
    | some body => cases same
    | none =>
      cases same
      rw [present]
      cases p with
      | done r =>
        rw [Option.some.inj done]
        rfl
      | ask c next => cases done
      | mint next => cases done
  have unclaimed : ¬ Reclaimed (Id.ofNat 1) twoCancelled ended.1 after.1 := by
    rintro ⟨j, now, queue, weekday, timeslot, caller, row, requested, named, answered, _⟩
    have claims : ∀ k < 6, (twoCancelled[k]?.map fun a => a.2.op) = some "claim_timeslot" → k = 5 := by decide
    have last : j = 5 := by
      refine claims j (List.getElem?_eq_some_iff.mp requested).1 ?_
      rw [requested]
      rfl
    rw [last] at answered
    have items : (Response.withBody .created row.toJson).items = [row.toJson] := rfl
    rw [answered, Option.bind_some, Plan.answer?, Option.map_some, items, List.map_singleton, row.shownId?_toJson,
      named] at shown
    exact absurd shown (by decide)
  have started : Reached ids Zone.utc (start {}) [] := .started rfl
  have requested : twoCancelled[3]? = some (1700006400000, .removeSignup (Id.ofNat 1) ⟨"ada@x.edu", false⟩) := rfl
  have whole := cancelled_stays_cancelled started twoCancelled noFaults
    ((List.range 3).flatMap (List.replicate 8) ++ [3]) ([4, 5].flatMap (List.replicate 8)) requested pending succeeded
    unclaimed (by decide +kernel)
  obtain ⟨again, update⟩ := whole ⟨Zone.utc, 1700046000000⟩ ⟨"ada@x.edu", false⟩ rfl
  exact ⟨statuses, again, update {}⟩

end Service

end Bookings
