import Bookings.Proofs.Desk.Balance
import Bookings.Proofs.Desk.Publishing
import Mathlib.Algebra.Order.BigOperators.Group.Finset
import Mathlib.Algebra.Order.BigOperators.Group.List
import Mathlib.Algebra.Order.Ring.Nat

namespace Bookings

def Exchange.adds (queue : Id) (times : Instant → Bool) (timeslot : UInt32) (x : Exchange) : Nat :=
  x.call.adds queue times timeslot x.answer

/-- How many rows some exchanges have added at a timeslot of a queue at one of some times. -/
def additions (queue : Id) (times : Instant → Bool) (timeslot : UInt32) (told : List Exchange) : Nat :=
  (told.map (Exchange.adds queue times timeslot)).sum

section

variable {queue : Id} {times : Instant → Bool} {timeslot : UInt32} {told : List Exchange}

theorem additions_append (more : List Exchange) :
    additions queue times timeslot (told ++ more) =
      additions queue times timeslot told + additions queue times timeslot more := by
  rw [additions, List.map_append, List.sum_append, additions, additions]

theorem additions_singleton (x : Exchange) :
    additions queue times timeslot [x] = x.adds queue times timeslot := by
  rw [additions, List.map_singleton, List.sum_singleton]

theorem adds_le_additions {x : Exchange} (member : x ∈ told) :
    x.adds queue times timeslot ≤ additions queue times timeslot told :=
  List.single_le_sum (fun _ _ => Nat.zero_le _) _ (List.mem_map_of_mem member)

theorem Exchange.adds_of_reads {x : Exchange} (reads : x.call.reads = true) : x.adds queue times timeslot = 0 :=
  Call.adds_of_quiet (Call.acknowledges_of_reads reads x.answer) queue times timeslot

theorem Quiet.additions (quiet : Quiet told) : additions queue times timeslot told = 0 := by
  induction told with
  | nil => rfl
  | cons x told ih =>
    obtain ⟨first, rest⟩ := List.forall_mem_cons.mp quiet
    change x.adds queue times timeslot + Bookings.additions queue times timeslot told = 0
    rw [Exchange.adds_of_reads first, ih rest]

end

namespace Plan

variable {α : Type} {P : Register → Prop} {ids : Nat → Id} {faults : Faults} {turns : List Nat} {plans : List (Plan α)}
  {s : Service} {queue : Id} {times : Instant → Bool} {timeslot : UInt32} {j : Nat}

theorem present_step (ids : Nat → Id) (faults : Faults) (p : Plan α) (s : Service) (queue : Id)
    (times : Instant → Bool) (timeslot : UInt32) :
    (p.step (Service.world ids faults) s).2.store.register.present queue times timeslot =
      s.store.register.present queue times timeslot +
        additions queue times timeslot (p.hear? (Service.world ids faults) s).toList := by
  cases p with
  | done a => rfl
  | ask c next =>
    rw [hear?, Option.toList_some, additions_singleton]
    exact s.store.present_answerWith faults c queue times timeslot
  | mint next => rfl

/-- The rows that come while plans take steps in turns are those that the plans hear of, each by itself. -/
theorem present_interleave (ids : Nat → Id) (faults : Faults) (turns : List Nat) (plans : List (Plan α)) (s : Service)
    (queue : Id) (times : Instant → Bool) (timeslot : UInt32) :
    (interleave (Service.world ids faults) turns plans s).2.store.register.present queue times timeslot =
      s.store.register.present queue times timeslot + ∑ j ∈ Finset.range plans.length,
        additions queue times timeslot (hears (Service.world ids faults) turns plans s j) := by
  induction turns generalizing plans s with
  | nil =>
    have none : ∀ j ∈ Finset.range plans.length,
        additions queue times timeslot (hears (Service.world ids faults) [] plans s j) = 0 := fun _ _ => rfl
    rw [Finset.sum_eq_zero none]
    rfl
  | cons i turns ih =>
    rw [interleave]
    cases chosen : plans[i]? with
    | none =>
      simp only [hears, chosen]
      exact ih plans s
    | some p =>
      simp only [hears, chosen]
      have inside : i < plans.length := (List.getElem?_eq_some_iff.mp chosen).1
      rw [ih, List.length_set, present_step]
      simp only [additions_append, Finset.sum_add_distrib, sum_turn inside (additions queue times timeslot) rfl]
      omega

theorem along_of_heard (allowed : Call → Prop)
    (kept : ∀ (u : Store) c, allowed c → P u.register → P (u.answerWith faults c).2.register)
    (heard : ∀ j < plans.length, ∀ x ∈ hears (Service.world ids faults) turns plans s j, allowed x.call)
    (holds : P s.store.register) : Along P (Service.world ids faults) turns plans s := by
  induction turns generalizing plans s with
  | nil =>
    intro n
    rw [List.take_nil]
    exact holds
  | cons i turns ih =>
    intro n
    cases n with
    | zero => exact holds
    | succ n =>
      rw [List.take_succ_cons, interleave]
      cases chosen : plans[i]? with
      | none =>
        refine ih (fun j bound x member => heard j bound x ?_) holds n
        simp only [hears, chosen]
        exact member
      | some p =>
        have inside : i < plans.length := (List.getElem?_eq_some_iff.mp chosen).1
        refine ih (fun j bound x member => heard j (List.length_set ▸ bound) x ?_) ?_ n
        · simp only [hears, chosen]
          exact List.mem_append_right _ member
        · cases p with
          | done a => exact holds
          | mint next => exact holds
          | ask c next =>
            refine kept s.store c (heard i inside ⟨c, (s.store.answerWith faults c).1⟩ ?_) holds
            simp only [hears, chosen, if_true]
            exact List.mem_append_left _ (List.mem_singleton.mpr rfl)

theorem answered_of_heard (along : Along P (Service.world ids faults) turns plans s) {x : Exchange}
    (heard : x ∈ hears (Service.world ids faults) turns plans s j) :
    ∃ u : Store, P u.register ∧ (u.answerWith faults x.call).1 = x.answer := by
  induction turns generalizing plans s with
  | nil => contradiction
  | cons i turns ih =>
    cases chosen : plans[i]? with
    | none =>
      simp only [hears, chosen] at heard
      exact ih (along.skip chosen) heard
    | some p =>
      simp only [hears, chosen] at heard
      rcases List.mem_append.mp heard with now | later
      · split at now
        · cases p with
          | ask c next =>
            cases List.mem_singleton.mp now
            exact ⟨s.store, along.now, rfl⟩
          | done a => contradiction
          | mint next => contradiction
        · contradiction
      · exact ih (along.next chosen) later

theorem first_addition (along : Along P (Service.world ids faults) turns plans s)
    (added : 0 < additions queue times timeslot (hears (Service.world ids faults) turns plans s j)) :
    ∃ i < plans.length, ∃ before x after,
      hears (Service.world ids faults) turns plans s i = before ++ x :: after ∧ 0 < x.adds queue times timeslot ∧
        ∀ y ∈ before, ∃ u : Store, P u.register ∧
          u.register.present queue times timeslot = s.store.register.present queue times timeslot ∧
            (u.answerWith faults y.call).1 = y.answer := by
  induction turns generalizing plans s with
  | nil => contradiction
  | cons i turns ih =>
    cases chosen : plans[i]? with
    | none =>
      simp only [hears, chosen] at added ⊢
      exact ih (along.skip chosen) added
    | some p =>
      simp only [hears, chosen] at added ⊢
      have inside : i < plans.length := (List.getElem?_eq_some_iff.mp chosen).1
      have grown := present_step ids faults p s queue times timeslot
      rcases Nat.eq_zero_or_pos
          (additions queue times timeslot (p.hear? (Service.world ids faults) s).toList) with none | some
      · rw [none, Nat.add_zero] at grown
        rw [additions_append] at added
        have turn : additions queue times timeslot
            (if i = j then (p.hear? (Service.world ids faults) s).toList else []) = 0 := by
          split
          · exact none
          · rfl
        rw [turn, Nat.zero_add] at added
        obtain ⟨k, bound, before, x, after, heard, filled, earlier⟩ := ih (along.next chosen) added
        rw [List.length_set] at bound
        refine ⟨k, bound, _ ++ before, x, after, by rw [heard, List.append_assoc], filled, ?_⟩
        intro y member
        rcases List.mem_append.mp member with now | later
        · split at now
          · cases p with
            | ask c next =>
              cases List.mem_singleton.mp now
              exact ⟨s.store, along.now, rfl, rfl⟩
            | done a => contradiction
            | mint next => contradiction
          · contradiction
        · obtain ⟨u, holds, same, answered⟩ := earlier y later
          exact ⟨u, holds, same.trans grown, answered⟩
      · cases p with
        | ask c next =>
          rw [hear?, Option.toList_some, additions_singleton] at some
          have heard : ∀ rest : List Exchange, (if i = i then
              ((ask c next).hear? (Service.world ids faults) s).toList else []) ++ rest =
                [] ++ ⟨c, ((Service.world ids faults).answer c s).1⟩ :: rest := fun rest => by
            rw [if_pos rfl]
            rfl
          exact ⟨i, inside, [], _, _, heard _, some, fun _ none => absurd none List.not_mem_nil⟩
        | done a => contradiction
        | mint next => contradiction

end Plan

namespace Desk

theorem shortage_antitone (d : Desk) (start : Instant) (capacity : Nat) {present more : Nat} (grown : present ≤ more) :
    d.shortage start capacity more ≤ d.shortage start capacity present := by
  rw [shortage, shortage]
  split
  · exact Nat.le_refl 0
  · omega

structure Steady (queue : Id) (weekday : UInt8) (w : Span) (timeslot : UInt32) (schedule : Schedule) (before : Nat)
    (r : Register) : Prop where
  sorted : ∀ queue, (r.content queue).Sorted
  stored : r.schedule? queue weekday = some schedule
  grown : before ≤ r.present queue w.contains timeslot

section

variable {d : Desk} {queue : Id} {weekday : UInt8} {w : Span} {schedule : Schedule} {timeslot : UInt32}
  {capacity before : Nat}

theorem Steady.answerWith {u : Store} {c : Call} (keeps : c.replaces = false)
    (steady : Steady queue weekday w timeslot schedule before u.register) :
    Steady queue weekday w timeslot schedule before (u.answerWith Service.noFaults c).2.register := by
  constructor
  · exact Store.sorted_answerWith steady.sorted Service.noFaults c
  · rw [(u.outcome_answerWith Service.noFaults c).keeps_schedules keeps, steady.stored]
  · rw [u.present_answerWith]
    exact Nat.le_add_right_of_le steady.grown

theorem countP_asked {u v : Store} {v' : Span} {stored : Schedule} {rows : List Slot} {details : Details}
    {ids : List Id} (bounds : weekdayBounds weekday d.now d.zone = some w) (valid : schedule.validate = .ok ())
    (seats : schedule.capacityAt timeslot = some capacity)
    (steady : Steady queue weekday w timeslot schedule before u.register)
    (found : (u.answerWith Service.noFaults (.scheduleFor queue weekday)).1 = .ok (some stored))
    (sorted : (v.register.content queue).Sorted) (bounds' : weekdayBounds weekday d.now d.zone = some v')
    (seen : (v.answerWith Service.noFaults (.within queue v')).1 = .ok rows)
    (enough : ids.length = (d.missingSeats stored v' rows).length) :
    (openRows queue stored details (d.missingSeats stored v' rows) ids).countP (Slot.placed w.contains timeslot) =
      d.shortage (schedule.startOf w timeslot) capacity (v.register.present queue w.contains timeslot) := by
  cases bounds.symm.trans bounds'
  have same : Except.ok (u.register.schedule? queue weekday) = Except.ok (some stored) := found
  rw [steady.stored] at same
  cases same
  have shown : Except.ok (v.register.within queue w) = Except.ok rows := seen
  cases shown
  rw [countP_openRows_missing enough valid bounds, seats, Option.elim_some, Register.within_eq,
    Queue.countP_within sorted]
  rfl

end

theorem adds_publish_le {queue : Id} {slots : List Slot} (times : Instant → Bool) (timeslot : UInt32)
    (a : Except StoreError Nat) :
    Exchange.adds queue times timeslot ⟨.publish queue slots, a⟩ ≤ slots.countP (Slot.placed times timeslot) := by
  cases a with
  | error e => exact Nat.zero_le _
  | ok count =>
    rw [Exchange.adds, Call.adds]
    split
    · exact Nat.le_refl _
    · exact Nat.zero_le _

theorem adds_publish {queue : Id} {slots : List Slot} {times : Instant → Bool} {timeslot : UInt32}
    {a : Except StoreError Nat} (some : 0 < Exchange.adds queue times timeslot ⟨.publish queue slots, a⟩) :
    Exchange.adds queue times timeslot ⟨.publish queue slots, a⟩ = slots.countP (Slot.placed times timeslot) := by
  cases a with
  | error e => contradiction
  | ok count =>
    rw [Exchange.adds, Call.adds] at some ⊢
    split at some
    · rename_i both
      rw [if_pos both]
    · contradiction

theorem eq_of_concat_eq {α : Type} {told before after : List α} {x y : α} (same : told ++ [y] = before ++ x :: after)
    (absent : x ∉ told) : before = told ∧ x = y := by
  rcases List.eq_nil_or_concat after with rfl | ⟨front, z, rfl⟩
  · obtain ⟨whole, last⟩ := List.append_inj' same rfl
    cases last
    exact ⟨whole.symm, rfl⟩
  · rw [List.concat_eq_append, ← List.cons_append, ← List.append_assoc] at same
    obtain ⟨whole, _⟩ := List.append_inj' same rfl
    rw [whole] at absent
    exact absurd (List.mem_append_right _ List.mem_cons_self) absent

section

variable {d : Desk} {queue : Id} {weekday : UInt8} {template : Draft} {caller : Caller} {told : List Exchange}
  {taken : List Id} {answer : Except BookingError Nat} {w : Span} {schedule : Schedule} {timeslot : UInt32}
  {capacity before : Nat} (story : d.Publishes queue weekday template caller told taken answer)
  (bounds : weekdayBounds weekday d.now d.zone = some w) (valid : schedule.validate = .ok ())
  (seats : schedule.capacityAt timeslot = some capacity)

include story bounds valid seats

theorem Publishes.additions_le
    (heard : ∀ x ∈ told, ∃ u : Store, Steady queue weekday w timeslot schedule before u.register ∧
      (u.answerWith Service.noFaults x.call).1 = x.answer) :
    additions queue w.contains timeslot told ≤ d.shortage (schedule.startOf w timeslot) capacity before := by
  cases story with
  | refused quiet =>
    rw [quiet.additions]
    exact Nat.zero_le _
  | asked quiet admin texts bounds' stored seen enough =>
    obtain ⟨u, steady, found⟩ := heard _ (List.mem_append_left _ stored)
    obtain ⟨v, later, shown⟩ := heard _ (List.mem_append_left _ seen)
    rw [additions_append, quiet.additions, Nat.zero_add, additions_singleton]
    refine Nat.le_trans (adds_publish_le _ _ _) ?_
    rw [countP_asked bounds valid seats steady found (later.sorted queue) bounds' shown enough]
    exact d.shortage_antitone _ _ later.grown

theorem Publishes.additions_first {early after : List Exchange} {x : Exchange} (split : told = early ++ x :: after)
    (filled : 0 < x.adds queue w.contains timeslot)
    (heard : ∀ y ∈ early, ∃ u : Store, Steady queue weekday w timeslot schedule before u.register ∧
      u.register.present queue w.contains timeslot = before ∧ (u.answerWith Service.noFaults y.call).1 = y.answer) :
    additions queue w.contains timeslot told = d.shortage (schedule.startOf w timeslot) capacity before := by
  have writes : x.call.reads = false := by
    rw [Bool.eq_false_iff]
    intro reads
    rw [Exchange.adds_of_reads reads] at filled
    contradiction
  cases story with
  | refused quiet =>
    refine absurd ?_ (quiet.not_mem writes)
    rw [split]
    exact List.mem_append_right _ List.mem_cons_self
  | asked quiet admin texts bounds' stored seen enough =>
    obtain ⟨rfl, rfl⟩ := eq_of_concat_eq split (quiet.not_mem writes)
    obtain ⟨u, steady, _, found⟩ := heard _ stored
    obtain ⟨v, later, same, shown⟩ := heard _ seen
    rw [additions_append, quiet.additions, Nat.zero_add, additions_singleton, adds_publish filled,
      countP_asked bounds valid seats steady found (later.sorted queue) bounds' shown enough, same]

end

theorem Publishes.keeps {d : Desk} {queue : Id} {weekday : UInt8} {template : Draft} {caller : Caller}
    {told : List Exchange} {taken : List Id} {answer : Except BookingError Nat}
    (story : d.Publishes queue weekday template caller told taken answer) : ∀ x ∈ told, x.call.replaces = false := by
  have plain : ∀ {quiets : List Exchange}, Quiet quiets → ∀ x ∈ quiets, x.call.replaces = false := by
    intro quiets quiet x member
    have reads := quiet x member
    cases call : x.call <;> rw [call] at reads <;> first | rfl | contradiction
  cases story with
  | refused quiet => exact plain quiet
  | asked quiet =>
    intro x member
    rcases List.mem_append.mp member with early | last
    · exact plain quiet x early
    · rw [List.mem_singleton.mp last]
      rfl

def publishers (d : Desk) (queue : Id) (weekday : UInt8) (drafts : List (Draft × Caller)) :
    List (Instant × Operation) :=
  drafts.map fun draft => (d.now, .publishOpenSlots queue weekday draft.1 draft.2)

end Desk

namespace Service

variable {ids : Nat → Id} {s : Service} {plans : List (Plan Response)} {d : Desk} {queue : Id} {weekday : UInt8}
  {drafts : List (Draft × Caller)} {turns : List Nat}

theorem publishes_heard {i : Nat} (bound : i < drafts.length)
    (finished : (s.report ids noFaults d.zone (d.publishers queue weekday drafts) turns i).isSome = true) :
    ∃ taken answer, d.Publishes queue weekday drafts[i].1 drafts[i].2
      (s.heard ids noFaults d.zone (d.publishers queue weekday drafts) turns i) taken answer := by
  have chosen : ((d.publishers queue weekday drafts).map fun t => task d.zone t.1 t.2)[i]? =
      some (task d.zone d.now (.publishOpenSlots queue weekday drafts[i].1 drafts[i].2)) := by
    rw [Desk.publishers, List.map_map, List.getElem?_map, List.getElem?_eq_getElem bound, Option.map_some]
    rfl
  have story : (d.publishOpenSlots queue weekday drafts[i].1 drafts[i].2).Tells (fun told _ _ =>
      ∃ taken answer, d.Publishes queue weekday drafts[i].1 drafts[i].2 told taken answer) [] [] :=
    (d.tells_publishes queue weekday drafts[i].1 drafts[i].2).mono fun told taken answer story => ⟨taken, answer, story⟩
  have tells : (task d.zone d.now (.publishOpenSlots queue weekday drafts[i].1 drafts[i].2)).Tells (fun told _ _ =>
      ∃ taken answer, d.Publishes queue weekday drafts[i].1 drafts[i].2 told taken answer) [] [] := story.bind_done
  obtain ⟨q, drawn, final, fits⟩ := tells.interleave (world ids noFaults) turns s chosen
  rw [report, final, Option.bind_some] at finished
  cases q with
  | done result => exact fits
  | ask c next => contradiction
  | mint next => contradiction

/-- Amounts none of which exceeds a gap, and one of which fills it if any is positive, fit into the gap together exactly
if no more than one of them is positive. -/
theorem sum_le_iff_once {n gap : Nat} {f : Nat → Nat} (each : ∀ i < n, f i ≤ gap)
    (first : ∀ j, 0 < f j → ∃ i < n, f i = gap ∧ 0 < f i) :
    ∑ i ∈ Finset.range n, f i ≤ gap ↔ ((Finset.range n).filter fun i => 0 < f i).card ≤ 1 := by
  constructor
  · intro held
    by_contra many
    obtain ⟨i, one, j, two, differ⟩ := Finset.one_lt_card.mp (Nat.lt_of_not_le many)
    rw [Finset.mem_filter] at one two
    obtain ⟨k, bound, all, filled⟩ := first i one.2
    obtain ⟨m, another, more, apart⟩ : ∃ m ∈ Finset.range n, 0 < f m ∧ k ≠ m := by
      by_cases same : k = i
      · exact ⟨j, two.1, two.2, same ▸ differ⟩
      · exact ⟨i, one.1, one.2, same⟩
    have least := Finset.add_le_sum (fun i _ => Nat.zero_le (f i)) (Finset.mem_range.mpr bound) another apart
    omega
  · intro few
    have fillers := Finset.sum_filter_of_ne (s := Finset.range n) (f := f) (p := fun i => 0 < f i)
      fun i _ => Nat.pos_of_ne_zero
    have most := Finset.sum_le_card_nsmul ((Finset.range n).filter fun i => 0 < f i) f _
      fun i member => each i (Finset.mem_range.mp (Finset.mem_filter.mp member).1)
    rw [fillers, Nat.nsmul_eq_mul] at most
    have once := Nat.le_trans most (Nat.mul_le_mul_right _ few)
    rwa [Nat.one_mul] at once

/-- Publishers of one day that take steps in turns add no more rows each than a timeslot lacks at first. So they keep
within its capacity exactly if no more than one of them adds any: each goes by the rows that it has seen, and nothing
looks for the rows again when it writes. -/
theorem publishers_hold_iff {w : Span} {schedule : Schedule} {timeslot : UInt32} {capacity : Nat}
    (reached : Reached ids d.zone s plans) (distinct : ((List.range s.minted).map ids).Nodup)
    (bounds : weekdayBounds weekday d.now d.zone = some w)
    (stored : s.store.register.schedule? queue weekday = some schedule)
    (seats : schedule.capacityAt timeslot = some capacity)
    (finished : ∀ i < drafts.length,
      (s.report ids noFaults d.zone (d.publishers queue weekday drafts) turns i).isSome = true) :
    let tasks := d.publishers queue weekday drafts
    let before := s.store.register.present queue w.contains timeslot
    let after := (s.concurrently ids noFaults d.zone tasks turns).store.register.present queue w.contains timeslot
    let added := fun i => additions queue w.contains timeslot (s.heard ids noFaults d.zone tasks turns i)
    after = before + ∑ i ∈ Finset.range drafts.length, added i ∧
      (∀ i < drafts.length, added i ≤ d.shortage (schedule.startOf w timeslot) capacity before) ∧
      (after ≤ max before capacity ↔ ((Finset.range drafts.length).filter fun i => 0 < added i).card ≤ 1) := by
  intro tasks before after added
  obtain ⟨used, consistent, lawful⟩ := reached.sound distinct
  have valid := lawful.sound.valid queue weekday schedule stored
  have count : (tasks.map fun t => task d.zone t.1 t.2).length = drafts.length := by
    rw [List.length_map]
    exact List.length_map _
  have story := fun i bound => publishes_heard bound (finished i bound)
  have along : Plan.Along (Desk.Steady queue weekday w timeslot schedule before) (world ids noFaults) turns
      (tasks.map fun t => task d.zone t.1 t.2) s := by
    refine Plan.along_of_heard (fun c => c.replaces = false) (fun u c keeps steady => steady.answerWith keeps) ?_
      ⟨consistent.formed.orderly.sorted, stored, Nat.le_refl _⟩
    intro j bound
    obtain ⟨_, _, story⟩ := story j (count ▸ bound)
    exact story.keeps
  have whole : after = before + ∑ i ∈ Finset.range drafts.length, added i := by
    have total := Plan.present_interleave ids noFaults turns
      (tasks.map fun t => task d.zone t.1 t.2) s queue w.contains timeslot
    rw [count] at total
    exact total
  have each : ∀ i < drafts.length, added i ≤ d.shortage (schedule.startOf w timeslot) capacity before := by
    intro i bound
    obtain ⟨_, _, story⟩ := story i bound
    exact story.additions_le bounds valid seats fun x heard => Plan.answered_of_heard along heard
  have first : ∀ j, 0 < added j → ∃ i < drafts.length,
      added i = d.shortage (schedule.startOf w timeslot) capacity before ∧ 0 < added i := by
    intro j filled
    obtain ⟨i, bound, early, x, late, split, adds, earlier⟩ := Plan.first_addition along filled
    rw [count] at bound
    obtain ⟨_, _, story⟩ := story i bound
    have all := story.additions_first bounds valid seats split adds fun y member => earlier y member
    have member : x ∈ s.heard ids noFaults d.zone tasks turns i := by
      rw [heard, split]
      exact List.mem_append_right _ List.mem_cons_self
    exact ⟨i, bound, all, Nat.lt_of_lt_of_le adds (adds_le_additions member)⟩
  refine ⟨whole, each, ?_⟩
  rw [← sum_le_iff_once each first, whole, Desk.shortage]
  split
  · rename_i started
    have none : ∑ i ∈ Finset.range drafts.length, added i = 0 := by
      refine Finset.sum_eq_zero fun i member => Nat.eq_zero_of_le_zero ?_
      have few := each i (Finset.mem_range.mp member)
      rwa [Desk.shortage, if_pos started] at few
    omega
  · omega

def twoPublishers : List (Draft × Caller) :=
  let draft : Draft := { name := some "Open", description := some "hour", location := some "room 1" }
  [(draft, ⟨"staff@x.edu", true⟩), (draft, ⟨"desk@x.edu", true⟩)]

theorem publishers_hold_iff_inOrder :
    let ids := fun n => Id.ofNat (n + 1)
    let d := Desk.mk Zone.utc 1700000060000
    let s := (start {}).visits ids Zone.utc (wednesday.take 1)
    let turns := [0, 0, 0, 0, 0, 0, 1, 1, 1, 1, 1, 1]
    let w : Span := ⟨1700006400000, 1700092800000⟩
    s.store.register.present (Id.ofNat 7) w.contains 1 = 0 ∧
      (s.concurrently ids noFaults d.zone (d.publishers (Id.ofNat 7) 3 twoPublishers) turns).store.register.present
        (Id.ofNat 7) w.contains 1 ≤ max (s.store.register.present (Id.ofNat 7) w.contains 1) 2 := by
  intro ids d s turns w
  have started : Reached ids Zone.utc (start {}) [] := .started rfl
  obtain ⟨plans, reached⟩ := started.visits (wednesday.take 1)
  have bounds : weekdayBounds 3 d.now Zone.utc = some w := by decide +kernel
  have stored : s.store.register.schedule? (Id.ofNat 7) 3 = some ⟨3, 30, ⟨['1', '2'].filterMap Capacities.digit?⟩⟩ := by
    decide +kernel
  have holds := @publishers_hold_iff ids s plans d (Id.ofNat 7) 3 twoPublishers turns w _ 1 2 reached
    (by decide +kernel) bounds stored (by decide +kernel) (by decide +kernel)
  exact ⟨by decide +kernel, holds.2.2.mpr (by decide +kernel)⟩

/-- Both look before either writes, and the day has each seat twice. -/
theorem publishers_overfill :
    let ids := fun n => Id.ofNat (n + 1)
    let d := Desk.mk Zone.utc 1700000060000
    let s := (start {}).visits ids Zone.utc (wednesday.take 1)
    let tasks := d.publishers (Id.ofNat 7) 3 twoPublishers
    let turns := [0, 0, 1, 1, 0, 0, 0, 0, 1, 1, 1, 1]
    let w : Span := ⟨1700006400000, 1700092800000⟩
    (∃ plans, Reached ids Zone.utc s plans) ∧
      (∀ i < 2, (s.report ids noFaults d.zone tasks turns i).isSome = true) ∧
      s.store.register.schedule? (Id.ofNat 7) 3 = some ⟨3, 30, ⟨['1', '2'].filterMap Capacities.digit?⟩⟩ ∧
      s.store.register.present (Id.ofNat 7) w.contains 0 = 0 ∧
      (s.concurrently ids noFaults d.zone tasks turns).store.register.present (Id.ofNat 7) w.contains 0 = 2 ∧
      ¬ (s.concurrently ids noFaults d.zone tasks turns).store.register.present (Id.ofNat 7) w.contains 0 ≤
        max (s.store.register.present (Id.ofNat 7) w.contains 0) 1 := by
  intro ids d s tasks turns w
  have started : Reached ids Zone.utc (start {}) [] := .started rfl
  obtain ⟨plans, reached⟩ := started.visits (wednesday.take 1)
  have none : s.store.register.present (Id.ofNat 7) w.contains 0 = 0 := by decide +kernel
  have twice :
      (s.concurrently ids noFaults d.zone tasks turns).store.register.present (Id.ofNat 7) w.contains 0 = 2 := by
    decide +kernel
  have exceeded : ¬ (s.concurrently ids noFaults d.zone tasks turns).store.register.present (Id.ofNat 7) w.contains 0 ≤
      max (s.store.register.present (Id.ofNat 7) w.contains 0) 1 := by
    rw [none, twice]
    decide
  have done : ∀ i < 2, (s.report ids noFaults d.zone tasks turns i).isSome = true := by decide +kernel
  have stored : s.store.register.schedule? (Id.ofNat 7) 3 = some ⟨3, 30, ⟨['1', '2'].filterMap Capacities.digit?⟩⟩ := by
    decide +kernel
  exact ⟨⟨plans, reached⟩, done, stored, none, twice, exceeded⟩

end Service

end Bookings
