import Mathlib.Algebra.BigOperators.Ring.Finset
import Bookings.Proofs.Desk.Atomicity
import Bookings.Proofs.Desk.Overbooking
import Bookings.Proofs.Store.Balance

namespace Bookings

namespace Exchange

def gain (homes : IdMap Id) (queue : Id) (email : String) (x : Exchange) : Int :=
  x.call.gain homes queue email x.answer

def late : Exchange → Bool
  | ⟨.release .., .ok false⟩ => true
  | _ => false

end Exchange

def gains (homes : IdMap Id) (queue : Id) (email : String) (told : List Exchange) : Int :=
  (told.map (Exchange.gain homes queue email)).sum

section

variable {homes : IdMap Id} {queue : Id} {email : String} {told : List Exchange}

theorem gains_append (more : List Exchange) :
    gains homes queue email (told ++ more) = gains homes queue email told + gains homes queue email more := by
  rw [gains, List.map_append, List.sum_append, gains, gains]

theorem gains_singleton (x : Exchange) : gains homes queue email [x] = x.gain homes queue email := by
  rw [gains, List.map_singleton, List.sum_singleton]

theorem gains_pair (x y : Exchange) :
    gains homes queue email [x, y] = x.gain homes queue email + y.gain homes queue email := by
  rw [gains, List.map_cons, List.sum_cons, List.map_singleton, List.sum_singleton]

theorem sum_turn {M : Type} [AddCommMonoid M] {i n : Nat} (inside : i < n) (count : List Exchange → M)
    (none : count [] = 0) (heard : List Exchange) :
    (∑ j ∈ Finset.range n, count (if i = j then heard else [])) = count heard := by
  have share : ∀ j, count (if i = j then heard else []) = if i = j then count heard else 0 := by
    intro j
    rw [← none]
    exact apply_ite _ _ _ _
  simp only [share, Finset.sum_ite_eq, Finset.mem_range, inside, if_true]

theorem Quiet.gains (quiet : Quiet told) : gains homes queue email told = 0 := by
  induction told with
  | nil => rfl
  | cons x told ih =>
    obtain ⟨first, rest⟩ := List.forall_mem_cons.mp quiet
    have none := Call.gain_of_quiet homes queue email (Call.acknowledges_of_reads first x.answer)
    change x.gain homes queue email + Bookings.gains homes queue email told = 0
    rw [Exchange.gain, none, ih rest]
    rfl

theorem Quiet.any_late (quiet : Quiet told) : told.any Exchange.late = false := by
  rw [List.any_eq_false]
  rintro ⟨c, a⟩ member late
  have reads := quiet _ member
  cases c <;> contradiction

end

namespace Plan

variable {α : Type} {P : Register → Prop} {w : World Service} {i j : Nat} {turns : List Nat} {plans : List (Plan α)}
  {s : Service} {p : Plan α} {ids : Nat → Id} {faults : Faults} {homes : IdMap Id}

def Along (P : Register → Prop) (w : World Service) (turns : List Nat) (plans : List (Plan α)) (s : Service) : Prop :=
  ∀ n, P (interleave w (turns.take n) plans s).2.store.register

theorem Along.now (along : Along P w turns plans s) : P s.store.register := along 0

theorem Along.skip (along : Along P w (i :: turns) plans s) (absent : plans[i]? = none) : Along P w turns plans s := by
  intro n
  have later := along (n + 1)
  rw [List.take_succ_cons, interleave, absent] at later
  exact later

theorem Along.next (along : Along P w (i :: turns) plans s) (chosen : plans[i]? = some p) :
    Along P w turns (plans.set i (p.step w s).1) (p.step w s).2 := by
  intro n
  have later := along (n + 1)
  rw [List.take_succ_cons, interleave, chosen] at later
  exact later

theorem interleave_append (w : World Service) (turns more : List Nat) (plans : List (Plan α)) (s : Service) :
    interleave w (turns ++ more) plans s =
      interleave w more (interleave w turns plans s).1 (interleave w turns plans s).2 := by
  induction turns generalizing plans s with
  | nil => rfl
  | cons i turns ih =>
    rw [List.cons_append, interleave, interleave]
    cases plans[i]? with
    | none => exact ih plans s
    | some p => exact ih _ _

theorem kept_step (formed : s.store.register.WellFormed)
    (after : (p.step (Service.world ids faults) s).2.store.register.WellFormed) :
    Kept s.store.register.homes (p.step (Service.world ids faults) s).2.store.register.homes := by
  cases p with
  | done a => exact Kept.refl _
  | ask c next => exact Store.kept_answerWith formed after
  | mint next => exact Kept.refl _

theorem kept_interleave (formed : Along Register.WellFormed (Service.world ids faults) turns plans s) :
    Kept s.store.register.homes (interleave (Service.world ids faults) turns plans s).2.store.register.homes := by
  induction turns generalizing plans s with
  | nil => exact Kept.refl _
  | cons i turns ih =>
    rw [interleave]
    cases chosen : plans[i]? with
    | none => exact ih (formed.skip chosen)
    | some p =>
      have later := formed.next chosen
      exact (kept_step formed.now later.now).trans (ih later)

theorem held_step (p : Plan α) (formed : s.store.register.WellFormed) (kept : Kept s.store.register.homes homes)
    (queue : Id) (email : String) :
    ((p.step (Service.world ids faults) s).2.store.register.held queue email (fun _ => true) : Int) =
      s.store.register.held queue email (fun _ => true) +
        gains homes queue email (p.hear? (Service.world ids faults) s).toList := by
  cases p with
  | done a => exact (Int.add_zero _).symm
  | ask c next =>
    rw [hear?, Option.toList_some, gains_singleton]
    exact Store.held_answerWith faults c formed kept queue email
  | mint next => exact (Int.add_zero _).symm

/-- What a student gains while plans take steps in turns is what the plans hear, each by itself. -/
theorem held_interleave (formed : Along Register.WellFormed (Service.world ids faults) turns plans s)
    (kept : Kept (interleave (Service.world ids faults) turns plans s).2.store.register.homes homes) (queue : Id)
    (email : String) :
    ((interleave (Service.world ids faults) turns plans s).2.store.register.held queue email (fun _ => true) : Int) =
      s.store.register.held queue email (fun _ => true) +
        ∑ j ∈ Finset.range plans.length, gains homes queue email (hears (Service.world ids faults) turns plans s j) := by
  induction turns generalizing plans s with
  | nil =>
    have none : ∀ j ∈ Finset.range plans.length,
        gains homes queue email (hears (Service.world ids faults) [] plans s j) = 0 := fun _ _ => rfl
    rw [Finset.sum_eq_zero none]
    exact (Int.add_zero _).symm
  | cons i turns ih =>
    have reached := (kept_interleave formed).trans kept
    rw [interleave] at kept ⊢
    cases chosen : plans[i]? with
    | none =>
      simp only [hears, chosen] at kept ⊢
      exact ih (formed.skip chosen) kept
    | some p =>
      simp only [hears, chosen] at kept ⊢
      have rest := ih (formed.next chosen) kept
      have inside : i < plans.length := (List.getElem?_eq_some_iff.mp chosen).1
      rw [List.length_set] at rest
      rw [rest, held_step p formed.now reached]
      simp only [gains_append, Finset.sum_add_distrib, sum_turn inside (gains homes queue email) rfl]
      omega

theorem fetched_hears (formed : Along Register.WellFormed (Service.world ids faults) turns plans s)
    (kept : Kept (interleave (Service.world ids faults) turns plans s).2.store.register.homes homes) {id : Id} {row : Slot}
    (heard : ⟨.fetch id, .ok row⟩ ∈ hears (Service.world ids faults) turns plans s j) :
    homes[id]? = some row.queue := by
  induction turns generalizing plans s with
  | nil => contradiction
  | cons i turns ih =>
    have reached := (kept_interleave formed).trans kept
    rw [interleave] at kept
    cases chosen : plans[i]? with
    | none =>
      simp only [hears, chosen] at kept heard
      exact ih (formed.skip chosen) kept heard
    | some p =>
      simp only [hears, chosen] at kept heard
      rcases List.mem_append.mp heard with now | later
      · split at now
        · cases p with
          | ask c next =>
            have asked := List.mem_singleton.mp now
            cases congrArg Exchange.call asked
            have answered : (s.store.answerWith faults (.fetch id)).1 = .ok row := by
              injection asked with _ same
              exact same.symm
            exact reached _ _ (Store.fetched_home formed.now answered)
          | done a => contradiction
          | mint next => contradiction
        · contradiction
      · exact ih (formed.next chosen) kept later

end Plan

abbrev Report : Type := Σ op : Operation, Except BookingError op.Result

namespace Report

def complete : Option Report → Bool
  | none => false
  | some ⟨_, .ok _⟩ => true
  | some ⟨_, .error e⟩ => !e.incomplete

def gaveUp (homes : IdMap Id) (queue : Id) : Option Report → Bool
  | some ⟨.removeSignup appointment _, .ok .removed⟩ => homes[appointment]? = some queue
  | _ => false

/-- A move within the queue that came too late to release the old row. -/
def overtaken (homes : IdMap Id) (queue : Id) (told : List Exchange) : Option Report → Bool
  | some ⟨.updateAppointment appointment _ _, .ok (.moved _)⟩ =>
    decide (homes[appointment]? = some queue) && told.any Exchange.late
  | _ => false

/-- What a request gains a student is what its answer says, but for an old row that it could not release. -/
def Settles (email : String) (told : List Exchange) (report : Report) : Prop :=
  ∀ (homes : IdMap Id) (queue : Id),
    (∀ {id : Id} {row : Slot}, ⟨.fetch id, .ok row⟩ ∈ told → homes[id]? = some row.queue) →
      complete (some report) = true →
        gains homes queue email told =
          (if overtaken homes queue told (some report) = true then 1 else 0) -
            if gaveUp homes queue (some report) = true then 1 else 0

end Report

def Operation.revises (email : String) : Operation → Bool
  | .updateAppointment _ _ caller => caller.email = email
  | .removeSignup _ caller => caller.email = email
  | _ => false

namespace Desk

variable {d : Desk} {appointment : Id} {draft : Draft} {caller : Caller} {told : List Exchange} {taken : List Id}

theorem Revises.settles {answer : Except BookingError Update}
    (story : d.Revises appointment draft caller told taken answer) :
    Report.Settles caller.email told ⟨.updateAppointment appointment draft caller, answer⟩ := by
  intro homes queue fetched complete
  cases story with
  | refused quiet plain => exact quiet.gains
  | edited quiet texts =>
    rename_i told details a
    rw [gains_append, quiet.gains, gains_singleton]
    cases a <;> rfl
  | full quiet present own =>
    rw [gains_append, quiet.gains, gains_singleton]
    rfl
  | moved quiet present replaces known lookup =>
    rename_i told current new created w schedule capacity a
    have home := fetched (List.mem_append_left _ present)
    rw [← replaces.queue] at home
    have inserted : Call.gain homes queue caller.email (.insert new ⟨w, capacity, none⟩) (.ok created) =
        if new.queue = queue then 1 else 0 := by simp only [Call.gain, replaces.claimed, and_true]
    have released : Call.gain homes queue caller.email (.release appointment caller.email) (.ok true) =
        if new.queue = queue then -1 else 0 := by simp only [Call.gain, home, Option.some.injEq, and_true]
    rw [gains_append, quiet.gains, gains_pair, Exchange.gain, Exchange.gain, inserted]
    cases a with
    | error cause => contradiction
    | ok gone =>
      have moved : ∀ heard, Report.overtaken homes queue heard
          (some ⟨.updateAppointment appointment draft caller, .ok (.moved created)⟩) =
            (decide (homes[appointment]? = some queue) && heard.any Exchange.late) := fun _ => rfl
      have kept : Report.gaveUp homes queue
          (some ⟨.updateAppointment appointment draft caller, .ok (.moved created)⟩) = false := rfl
      rw [moved, kept, List.any_append, quiet.any_late, home]
      cases gone with
      | true =>
        rw [released]
        by_cases own : new.queue = queue <;> simp [own, Exchange.late]
      | false => by_cases own : new.queue = queue <;> simp [own, Exchange.late, Call.gain]

theorem Removes.settles {answer : Except BookingError Removal} (story : d.Removes appointment caller told answer) :
    Report.Settles caller.email told ⟨.removeSignup appointment caller, answer⟩ := by
  intro homes queue fetched complete
  cases story with
  | refused quiet plain => exact quiet.gains
  | vacated quiet => exact quiet.gains
  | released quiet present ahead =>
    rename_i told current a
    rw [gains_append, quiet.gains, gains_singleton]
    cases a with
    | error e => rfl
    | ok gone =>
      cases gone with
      | true =>
        rw [Exchange.gain, Call.gain]
        change _ = 0 - if decide (homes[appointment]? = some queue) = true then 1 else 0
        by_cases own : homes[appointment]? = some queue <;> simp [own]
      | false => rfl

end Desk

def Plan.answer? {α : Type} : Plan α → Option α
  | .done a => some a
  | .ask _ _ => none
  | .mint _ => none

namespace Service

variable {ids : Nat → Id} {faults : Faults} {zone : Zone} {s : Service} {tasks : List (Instant × Operation)}
  {turns : List Nat} {email : String}

def report (ids : Nat → Id) (faults : Faults) (zone : Zone) (s : Service) (tasks : List (Instant × Operation))
    (turns : List Nat) (i : Nat) : Option Report :=
  (Plan.interleave (world ids faults) turns (tasks.map fun t => task zone t.1 t.2) s).1[i]?.bind Plan.answer?

def heard (ids : Nat → Id) (faults : Faults) (zone : Zone) (s : Service) (tasks : List (Instant × Operation))
    (turns : List Nat) (i : Nat) : List Exchange :=
  Plan.hears (world ids faults) turns (tasks.map fun t => task zone t.1 t.2) s i

theorem tells_task (zone : Zone) (now : Instant) {op : Operation} (own : op.revises email = true) :
    (task zone now op).Tells (fun told _ report => Report.Settles email told report) [] [] := by
  apply Action.Tells.bind_done
  cases op with
  | updateAppointment appointment draft caller =>
    cases of_decide_eq_true own
    have told := (Desk.mk zone now).tells_updateAppointment appointment draft caller
    exact told.mono fun _ _ _ story => story.settles
  | removeSignup appointment caller =>
    cases of_decide_eq_true own
    have told := (Desk.mk zone now).tells_removeSignup appointment caller
    exact told.mono fun _ _ _ story => story.settles
  | claimTimeslot queue weekday timeslot caller => contradiction
  | signup queue weekday timeslot draft caller => contradiction
  | updateSchedule queue weekday duration capacities caller => contradiction
  | publishOpenSlots queue weekday template caller => contradiction

theorem formed_keeps (zone : Zone) (schedules : Schedules) :
    Register.Keeps (fun r => r.WellFormed ∧ r.schedule? = schedules) (Permits zone) where
  same := fun same formed => ⟨formed.1.of_same same, same.schedule?.trans formed.2⟩
  apply := fun admitted permitted fresh formed =>
    ⟨formed.1.apply fresh admitted.addressed, (admitted.keeps_schedules permitted.1).trans formed.2⟩

theorem formed_along (formed : s.store.register.WellFormed) (keeps : ∀ t ∈ tasks, t.2.replaces = false)
    (fresh : s.store.register.Fresh (s.coming ids (s.concurrently ids faults zone tasks turns).minted)) :
    Plan.Along Register.WellFormed (world ids faults) turns (tasks.map fun t => task zone t.1 t.2) s := by
  intro n
  have enough : (Plan.interleave (world ids faults) (turns.take n) (tasks.map fun t => task zone t.1 t.2) s).2.minted ≤
      (s.concurrently ids faults zone tasks turns).minted := by
    have whole := Plan.interleave_append (world ids faults) (turns.take n) (turns.drop n)
      (tasks.map fun t => task zone t.1 t.2) s
    rw [List.take_append_drop] at whole
    rw [concurrently, whole]
    exact Plan.minted_le_interleave ids faults _ _ _
  have kept := formed_keeps zone s.store.register.schedule?
  exact (keeps_interleave kept (fun r formed => formed.2) keeps ⟨formed, rfl⟩ fresh enough).1

theorem gains_heard
    (along : Plan.Along Register.WellFormed (world ids faults) turns (tasks.map fun t => task zone t.1 t.2) s)
    {homes : IdMap Id} (kept : Kept (s.concurrently ids faults zone tasks turns).store.register.homes homes)
    (own : ∀ t ∈ tasks, t.2.revises email = true) {i : Nat} (bound : i < tasks.length)
    (complete : Report.complete (s.report ids faults zone tasks turns i) = true) (queue : Id) :
    gains homes queue email (s.heard ids faults zone tasks turns i) =
      (if Report.overtaken homes queue (s.heard ids faults zone tasks turns i)
        (s.report ids faults zone tasks turns i) = true then 1 else 0) -
          if Report.gaveUp homes queue (s.report ids faults zone tasks turns i) = true then 1 else 0 := by
  have chosen : (tasks.map fun t => task zone t.1 t.2)[i]? = some (task zone tasks[i].1 tasks[i].2) := by
    rw [List.getElem?_map, List.getElem?_eq_getElem bound, Option.map_some]
  have tells := tells_task zone tasks[i].1 (own _ (List.getElem_mem bound))
  obtain ⟨q, drawn, final, fits⟩ := tells.interleave (world ids faults) turns s chosen
  have reported : s.report ids faults zone tasks turns i = q.answer? := by rw [report, final, Option.bind_some]
  rw [reported] at complete ⊢
  cases q with
  | done result => exact fits homes queue (Plan.fetched_hears along kept) complete
  | ask c next => contradiction
  | mint next => contradiction

/-- Updates and removals by one student, in any turns, leave them the rows that they had without those that the
removals gave up, if no move is half done; but each move that finds its old row released by another request adds one. -/
theorem revisions_balance (formed : s.store.register.WellFormed)
    (fresh : s.store.register.Fresh (s.coming ids (s.concurrently ids faults zone tasks turns).minted))
    (own : ∀ t ∈ tasks, t.2.revises email = true)
    (complete : ∀ i < tasks.length, Report.complete (s.report ids faults zone tasks turns i) = true) (queue : Id) :
    let r := (s.concurrently ids faults zone tasks turns).store.register
    r.held queue email (fun _ => true) +
        ((Finset.range tasks.length).filter fun i =>
          Report.gaveUp r.homes queue (s.report ids faults zone tasks turns i) = true).card =
      s.store.register.held queue email (fun _ => true) +
        ((Finset.range tasks.length).filter fun i =>
          Report.overtaken r.homes queue (s.heard ids faults zone tasks turns i)
            (s.report ids faults zone tasks turns i) = true).card := by
  intro r
  have keeps : ∀ t ∈ tasks, t.2.replaces = false := by
    intro t member
    have revises := own t member
    cases op : t.2 <;> rw [op] at revises <;> first | rfl | contradiction
  have along := formed_along formed keeps fresh
  have balance := Plan.held_interleave along (Kept.refl _) queue email
  rw [List.length_map] at balance
  have settled := fun i inside => gains_heard along (Kept.refl r.homes) own (Finset.mem_range.mp inside)
    (complete i (Finset.mem_range.mp inside)) queue
  have sums := Finset.sum_congr rfl settled
  rw [Finset.sum_sub_distrib, Finset.sum_boole, Finset.sum_boole] at sums
  change (r.held queue email (fun _ => true) : Int) = s.store.register.held queue email (fun _ => true) +
    ∑ i ∈ Finset.range tasks.length, gains r.homes queue email (s.heard ids faults zone tasks turns i) at balance
  rw [sums] at balance
  omega

def racingMove (timeslot : UInt32) : Instant × Operation :=
  (1700006400000, .updateAppointment (Id.ofNat 1) ⟨some timeslot, some "Ada", some "limits", some "room 1", none, none⟩
    ⟨"ada@x.edu", false⟩)

def racingRemoval : Instant × Operation := (1700006400000, .removeSignup (Id.ofNat 1) ⟨"ada@x.edu", false⟩)

theorem revisions_balance_racingRemoval :
    let s : Service := ⟨(Store.open {}).after Desk.bookedHour, 1⟩
    let ids := fun n => Id.ofNat (n + 1)
    let tasks := [racingMove 11, racingRemoval]
    let turns := [0, 1, 1, 0, 0, 0, 0, 0]
    let r := (s.concurrently ids noFaults Zone.utc tasks turns).store.register
    r.held (Id.ofNat 7) "ada@x.edu" (fun _ => true) = 1 ∧
      ((Finset.range 2).filter fun i =>
        Report.gaveUp r.homes (Id.ofNat 7) (s.report ids noFaults Zone.utc tasks turns i) = true).card = 1 ∧
      r.held (Id.ofNat 7) "ada@x.edu" (fun _ => true) +
          ((Finset.range 2).filter fun i =>
            Report.gaveUp r.homes (Id.ofNat 7) (s.report ids noFaults Zone.utc tasks turns i) = true).card =
        s.store.register.held (Id.ofNat 7) "ada@x.edu" (fun _ => true) +
          ((Finset.range 2).filter fun i =>
            Report.overtaken r.homes (Id.ofNat 7) (s.heard ids noFaults Zone.utc tasks turns i)
              (s.report ids noFaults Zone.utc tasks turns i) = true).card := by
  intro s ids tasks turns r
  have fresh : s.store.register.Fresh (s.coming ids (s.concurrently ids noFaults Zone.utc tasks turns).minted) :=
    Store.fresh_after (Register.fresh_empty (by decide +kernel))
  refine ⟨by decide +kernel, by decide +kernel, ?_⟩
  exact revisions_balance Desk.formed_bookedHour fresh (by decide +kernel) (by decide +kernel) (Id.ofNat 7)

/-- Two moves of one row that both find it claimed both answer with a new row, and the student has two rows for one. -/
theorem racing_moves_multiply :
    let s : Service := ⟨(Store.open {}).after Desk.bookedHour, 1⟩
    let ids := fun n => Id.ofNat (n + 1)
    let tasks := [racingMove 11, racingMove 12]
    let turns := [0, 1, 0, 0, 0, 0, 0, 1, 1, 1, 1, 1]
    let t := s.concurrently ids noFaults Zone.utc tasks turns
    (Store.open {}).Supplied Desk.bookedHour ∧ s.store.register.Fresh (s.coming ids t.minted) ∧
      (∀ t ∈ tasks, t.2.revises "ada@x.edu" = true) ∧
      (∀ i < 2, Report.complete (s.report ids noFaults Zone.utc tasks turns i) = true ∧
        Report.gaveUp t.store.register.homes (Id.ofNat 7) (s.report ids noFaults Zone.utc tasks turns i) = false) ∧
      s.store.register.held (Id.ofNat 7) "ada@x.edu" (fun _ => true) = 1 ∧
      t.store.register.held (Id.ofNat 7) "ada@x.edu" (fun _ => true) = 2 := by
  intro s ids tasks turns t
  have fresh : s.store.register.Fresh (s.coming ids t.minted) :=
    Store.fresh_after (Register.fresh_empty (by decide +kernel))
  have supplied : (Store.open {}).Supplied Desk.bookedHour :=
    Store.supplied_of_fresh (Register.fresh_empty (by decide +kernel))
  exact ⟨supplied, fresh, by decide +kernel, by decide +kernel, by decide +kernel, by decide +kernel⟩

end Service

end Bookings
