import Bookings.Proofs.Desk.Endings
import Bookings.Proofs.Store.Answers
import Bookings.Proofs.Store.Holdings
import Bookings.Proofs.Store.WellFormed

namespace Bookings

namespace Slot

def vacated (id : Id) (row : Slot) : Slot := if row.id = id then { row with student := none } else row

def reworded (id : Id) (details : Details) (row : Slot) : Slot := if row.id = id then { row with details } else row

end Slot

namespace Register

/-- Nothing is different but the rows of one queue. -/
structure SameBut (queue : Id) (r t : Register) : Prop where
  others : ∀ other, other ≠ queue → t.rows other = r.rows other
  schedules : t.schedule? = r.schedule?

structure Gains (new : Slot) (f : Slot → Slot) (r t : Register) : Prop where
  unused : ∀ queue, ∀ row ∈ r.rows queue, row.id ≠ new.id
  rows : ∃ front back, r.rows new.queue = front ++ back ∧ t.rows new.queue = front.map f ++ new :: back.map f
  frame : r.SameBut new.queue t
  homes : t.homes = r.homes.insert new.id new.queue

variable {r : Register}

theorem SameBut.trans {queue : Id} {s t : Register} (first : r.SameBut queue s) (second : s.SameBut queue t) :
    r.SameBut queue t where
  others := fun other differs => (second.others other differs).trans (first.others other differs)
  schedules := second.schedules.trans first.schedules

theorem sameBut_apply (r : Register) (e : Event) (plain : ∀ queue schedule, e ≠ .scheduleReplaced queue schedule) :
    r.SameBut e.queue (r.apply e) where
  others := fun _ differs => r.rows_apply_other e differs
  schedules := r.schedule?_apply plain

theorem gains_slotCreated {new : Slot} (fresh : r.Fresh [new.id]) : r.Gains new id (r.apply (.slotCreated new)) where
  unused := fresh.unused new.id (List.mem_singleton.mpr rfl)
  rows := by
    obtain ⟨front, back, before, after⟩ := (r.content new.queue).rows_insert_between new
    refine ⟨front, back, before, ?_⟩
    rw [List.map_id, List.map_id, rows_slotCreated, after]
  frame := r.sameBut_apply (.slotCreated new) nofun
  homes := rfl

theorem rows_vacated {home : Id} (distinct : (r.content home).Distinct) (id : Id) :
    (r.apply (.claimReleased id home)).rows home = (r.rows home).map (Slot.vacated id) := by
  rw [rows_claimReleased, Queue.setStudent, Queue.rows_modify distinct]
  rfl

theorem rows_reworded {home : Id} (distinct : (r.content home).Distinct) (id : Id) (details : Details) :
    (r.apply (.detailsEdited id home details)).rows home = (r.rows home).map (Slot.reworded id details) := by
  rw [rows_detailsEdited, Queue.setDetails, Queue.rows_modify distinct]
  rfl

theorem Gains.vacate {new old : Slot} {t : Register} (gains : r.Gains new id t)
    (distinct : (t.content new.queue).Distinct) (member : old ∈ r.rows new.queue) :
    r.Gains new (Slot.vacated old.id) (t.apply (.claimReleased old.id new.queue)) where
  unused := gains.unused
  rows := by
    obtain ⟨front, back, before, after⟩ := gains.rows
    refine ⟨front, back, before, ?_⟩
    have other : new.vacated old.id = new := if_neg fun same => gains.unused _ old member same.symm
    rw [rows_vacated distinct, after, List.map_append, List.map_cons, other, List.map_id, List.map_id]
  frame := gains.frame.trans (t.sameBut_apply (.claimReleased old.id new.queue) nofun)
  homes := gains.homes

theorem isSome_queue? {queue : Id} {row : Slot} (member : row ∈ r.rows queue) : (r.queue? queue).isSome = true := by
  rw [rows, content] at member
  cases stored : r.queue? queue with
  | none =>
    rw [stored, Option.getD_none, Queue.rows_empty] at member
    contradiction
  | some q => rfl

theorem resolve_slotCreated {new row : Slot} {id home : Id} (orderly : r.Orderly) (fresh : r.Fresh [new.id])
    (found : r.resolve id = .ok (home, row)) : (r.apply (.slotCreated new)).resolve id = .ok (home, row) := by
  obtain ⟨indexed, present⟩ := resolve_eq_ok found
  obtain ⟨member, rfl⟩ := Queue.mem_of_slot? present
  have differs : new.id ≠ row.id := fun same => fresh.unused _ (List.mem_singleton.mpr rfl) home row member same.symm
  rw [resolve_eq_ok_iff]
  constructor
  · change (r.homes.insert new.id new.queue)[row.id]? = some home
    rw [Std.ExtTreeMap.getElem?_insert, if_neg fun same => differs (Std.LawfulEqCmp.compare_eq_iff_eq.mp same), indexed]
  · refine Queue.slot?_of_mem ((orderly.apply (.slotCreated new) fresh).distinct home) ?_
    by_cases own : home = new.queue
    · rw [own, ← rows, rows_slotCreated]
      rw [own] at member
      exact (Queue.rows_insert_perm _ new).mem_iff.mpr (List.mem_cons_of_mem new member)
    · rw [← rows, r.rows_apply_other (.slotCreated new) own]
      exact member

end Register

namespace Desk

variable {d : Desk} {appointment : Id} {draft : Draft} {caller : Caller} {r t : Register}
  {answer : Except BookingError Update}

/-- The events that an update commits, by its answer. -/
inductive Commits (d : Desk) (appointment : Id) (draft : Draft) (caller : Caller) (r : Register) :
    Except BookingError Update → Register → Prop
  | refused {e : BookingError} (plain : e.incomplete = false) : Commits d appointment draft caller r (.error e) r
  | edited {queue : Id} {row : Slot} {details : Details} (member : row ∈ r.rows queue) (named : row.id = appointment)
      (owned : row.isClaimedBy caller.email = true) (texts : Rules.details draft = .ok details) :
      Commits d appointment draft caller r (.ok .edited) (r.apply (.detailsEdited appointment queue details))
  | incomplete {old new : Slot} {w : Span} {cause : StoreError} (member : old ∈ r.rows new.queue)
      (named : old.id = appointment) (replaces : d.Replaces draft caller w old new) (fresh : r.Fresh [new.id]) :
      Commits d appointment draft caller r (.error (.moveIncomplete new.id appointment cause))
        (r.apply (.slotCreated new))
  | moved {old new : Slot} {w : Span} (member : old ∈ r.rows new.queue) (named : old.id = appointment)
      (replaces : d.Replaces draft caller w old new) (fresh : r.Fresh [new.id]) :
      Commits d appointment draft caller r (.ok (.moved new))
        ((r.apply (.slotCreated new)).apply (.claimReleased appointment new.queue))

/-- What an update makes of the state, by its answer: the texts of the caller's row are others; there is a row more,
and the old one is vacant, or still the caller's if the move is incomplete; or nothing is different. -/
inductive Reflects (d : Desk) (appointment : Id) (draft : Draft) (caller : Caller) (r : Register) :
    Except BookingError Update → Register → Prop
  | refused {e : BookingError} (plain : e.incomplete = false) : Reflects d appointment draft caller r (.error e) r
  | edited {queue : Id} {row : Slot} {details : Details} {t : Register} (member : row ∈ r.rows queue)
      (named : row.id = appointment) (owned : row.isClaimedBy caller.email = true)
      (texts : Rules.details draft = .ok details)
      (rows : t.rows queue = (r.rows queue).map (Slot.reworded appointment details)) (frame : r.SameBut queue t)
      (homes : t.homes = r.homes) : Reflects d appointment draft caller r (.ok .edited) t
  | incomplete {old new : Slot} {w : Span} {cause : StoreError} {t : Register} (member : old ∈ r.rows new.queue)
      (named : old.id = appointment) (replaces : d.Replaces draft caller w old new) (gains : r.Gains new id t)
      (stays : old ∈ t.rows new.queue) :
      Reflects d appointment draft caller r (.error (.moveIncomplete new.id appointment cause)) t
  | moved {old new : Slot} {w : Span} {t : Register} (member : old ∈ r.rows new.queue) (named : old.id = appointment)
      (replaces : d.Replaces draft caller w old new) (gains : r.Gains new (Slot.vacated appointment) t) :
      Reflects d appointment draft caller r (.ok (.moved new)) t

theorem Commits.reflects (commits : d.Commits appointment draft caller r answer t) (orderly : r.Orderly) :
    d.Reflects appointment draft caller r answer t := by
  cases commits with
  | refused plain => exact .refused plain
  | edited member named owned texts =>
    rename_i queue row details
    have rows := Register.rows_reworded (orderly.distinct queue) appointment details
    exact .edited member named owned texts rows (r.sameBut_apply (.detailsEdited _ _ _) nofun) rfl
  | incomplete member named replaces fresh =>
    have gains := Register.gains_slotCreated fresh
    obtain ⟨front, back, before, after⟩ := gains.rows
    refine .incomplete member named replaces gains ?_
    rw [before, List.mem_append] at member
    rw [after, List.map_id, List.map_id, List.mem_append, List.mem_cons]
    exact member.imp_right .inr
  | moved member named replaces fresh =>
    cases named
    have distinct := (orderly.apply (.slotCreated _) fresh).distinct
    exact .moved member rfl replaces ((Register.gains_slotCreated fresh).vacate (distinct _) member)

theorem Commits.held_le (commits : d.Commits appointment draft caller r answer t) (orderly : r.Orderly) (queue : Id) :
    r.held queue caller.email (fun _ => true) ≤ t.held queue caller.email fun _ => true := by
  cases commits with
  | refused plain => exact Nat.le_refl _
  | edited member named owned texts => exact Nat.le_of_eq (r.held_detailsEdited _ _ _ queue _ _).symm
  | incomplete member named replaces fresh =>
    rw [Register.held_slotCreated]
    exact Nat.le_add_right _ _
  | moved member named replaces fresh =>
    rename_i old new w
    cases named
    have kept : old ∈ (r.apply (.slotCreated new)).rows new.queue := by
      rw [r.rows_slotCreated]
      exact (Queue.rows_insert_perm _ new).mem_iff.mpr (List.mem_cons_of_mem new member)
    have distinct := (orderly.apply (.slotCreated new) fresh).distinct new.queue
    have released := Register.held_claimReleased distinct kept queue caller.email fun _ => true
    have created := r.held_slotCreated queue caller.email (fun _ => true) new
    -- The student holds the new row, so the old one is made up for.
    have claimed : new.heldAt caller.email (fun _ => true) = true := (new.heldAt_iff _ _).mpr ⟨replaces.claimed, rfl⟩
    by_cases own : queue = new.queue
    · simp only [own, claimed, and_self, true_and, if_true] at created released ⊢
      split at released <;> omega
    · simp only [own, false_and, if_false] at created released
      omega

theorem truthful_row {s : Store} {faults : Faults} {current : Slot} (formed : s.register.WellFormed)
    (truthful : ∀ student, faults .fetch ≠ some (.showsStudent student))
    (fetched : (s.answerWith faults (.fetch appointment)).1 = .ok current) :
    s.register.resolve appointment = .ok (current.queue, current) := by
  obtain ⟨home, slot, found, rfl | ⟨student, faulty, _⟩⟩ := Store.fetch_shows fetched
  · obtain ⟨member, _⟩ := Queue.mem_of_slot? (Register.resolve_eq_ok found).2
    rw [found, formed.named home current member]
  · exact absurd faulty (truthful student)

theorem commits_updateAppointment (d : Desk) (appointment : Id) (draft : Draft) (caller : Caller) {ids : Nat → Id}
    {faults : Faults} {s : Service} (formed : s.store.register.WellFormed)
    (fresh : s.store.register.Fresh [ids s.minted])
    (truthful : ∀ student, faults .fetch ≠ some (.showsStudent student)) :
    (d.updateAppointment appointment draft caller).Ends ids faults s fun answer t =>
      d.Commits appointment draft caller s.store.register answer t.store.register := by
  refine (d.tells_updateAppointment appointment draft caller).ends ?_
  intro told answer ⟨t, minted⟩ answers counted story
  generalize drawn : s.coming ids minted = taken at story
  cases story with
  | refused quiet plain =>
    cases answers.quiet quiet
    exact .refused plain
  | edited quiet texts =>
    obtain ⟨⟨_, asked, rfl⟩, _⟩ := answers.of_quiet quiet
    rcases Store.edit_cases asked with ⟨e, rfl, same⟩ | ⟨home, row, rfl, found, held, changed⟩
    · rw [same]
      exact .refused (BookingError.incomplete_ofStore e)
    · obtain ⟨member, named⟩ := Queue.mem_of_slot? (Register.resolve_eq_ok found).2
      have owned : row.isClaimedBy caller.email = true := by rw [Slot.isClaimedBy, held, beq_self_eq_true]
      rw [changed]
      exact .edited member named owned texts
  | full quiet fetched queue =>
    obtain ⟨⟨_, asked, rfl⟩, heard⟩ := answers.of_quiet quiet
    have found := truthful_row formed truthful (heard _ fetched)
    obtain ⟨member, _⟩ := Queue.mem_of_slot? (Register.resolve_eq_ok found).2
    rw [← queue] at member
    rcases Store.insert_cases (Register.isSome_queue? member) asked with ⟨e, _, same⟩ | ⟨accepted, _⟩
    · rw [same]
      exact .refused (BookingError.incomplete_ofStore _)
    · contradiction
  | moved quiet fetched replaces known lookup =>
    rename_i told current new created w schedule capacity a
    obtain ⟨⟨between, inserted, _, released, rfl⟩, heard⟩ := answers.of_quiet quiet
    have found := truthful_row formed truthful (heard _ fetched)
    obtain ⟨member, named⟩ := Queue.mem_of_slot? (Register.resolve_eq_ok found).2
    rw [← replaces.queue] at member found
    have unused : s.store.register.Fresh [new.id] := (Service.coming_eq_singleton drawn).1 ▸ fresh
    rcases Store.insert_cases (Register.isSome_queue? member) inserted with ⟨e, refused, _⟩ | ⟨accepted, grown⟩
    · contradiction
    · cases accepted
      have still := Register.resolve_slotCreated formed.orderly unused found
      rw [← grown] at still
      rcases Store.release_cases released with ⟨cause, rfl, same⟩ | ⟨home, row, present, gone⟩
      · rw [same, grown]
        exact .incomplete member named replaces unused
      · cases still.symm.trans present
        rcases gone with ⟨_, vacant, _⟩ | ⟨rfl, _, changed⟩
        · have owned := replaces.owned
          rw [Slot.isClaimedBy, vacant] at owned
          contradiction
        · rw [changed, grown]
          exact .moved member named replaces unused

/-- Whatever fails in the store but to tell the truth about the row, an update does all that it answers and nothing else,
and the student ends up with no fewer rows than before. -/
theorem update_is_atomic (d : Desk) (appointment : Id) (draft : Draft) (caller : Caller) {ids : Nat → Id}
    {faults : Faults} {s : Service} (formed : s.store.register.WellFormed)
    (fresh : s.store.register.Fresh [ids s.minted])
    (truthful : ∀ student, faults .fetch ≠ some (.showsStudent student)) :
    (d.updateAppointment appointment draft caller).Ends ids faults s fun answer t =>
      d.Reflects appointment draft caller s.store.register answer t.store.register ∧
        ∀ queue, s.store.register.held queue caller.email (fun _ => true) ≤
          t.store.register.held queue caller.email fun _ => true := by
  have commits := d.commits_updateAppointment appointment draft caller formed fresh truthful
  exact ⟨commits.reflects formed.orderly, commits.held_le formed.orderly⟩

def bookedHour : List Call :=
  let queue := Id.ofNat 7
  let w : Span := ⟨1700006400000, 1700092800000⟩
  let details : Details := ⟨"Ada", "limits", "room 1", .zero, .zero⟩
  [.replaceSchedule queue ⟨3, 60, ⟨(List.replicate 24 '1').filterMap Capacities.digit?⟩⟩ w,
    .insert ⟨Id.ofNat 1, queue, 10, 1700042400000, 60, some "ada@x.edu", details⟩ ⟨w, 1, none⟩]

theorem formed_bookedHour : ((Store.open {}).after bookedHour).register.WellFormed :=
  Store.keeps_after Register.wellFormed_keeps (fun _ _ _ => True.intro)
    (Store.supplied_of_fresh (Register.fresh_empty (by decide +kernel))) Register.wellFormed_empty

def stuckRelease : Faults := fun capability =>
  if capability = .release then some (.fails (.logFailed (.reported "stuck"))) else none

theorem update_is_atomic_stuckRelease :
    let s : Service := ⟨(Store.open {}).after bookedHour, 1⟩
    let draft : Draft := ⟨some 11, some "Ada", some "limits", some "room 1", none, none⟩
    let x := (Desk.mk Zone.utc 1700006400000).updateAppointment (Id.ofNat 1) draft ⟨"ada@x.edu", false⟩
    (x.Ends (fun n => Id.ofNat (n + 1)) stuckRelease s fun answer t =>
      answer = .error (.moveIncomplete (Id.ofNat 2) (Id.ofNat 1) (.logFailed (.reported "stuck"))) ∧
        s.store.register.held (Id.ofNat 7) "ada@x.edu" (fun _ => true) = 1 ∧
          t.store.register.held (Id.ofNat 7) "ada@x.edu" (fun _ => true) = 2) ∧
      x.Ends (fun n => Id.ofNat (n + 1)) stuckRelease s fun answer t =>
        (Desk.mk Zone.utc 1700006400000).Reflects (Id.ofNat 1) draft ⟨"ada@x.edu", false⟩ s.store.register answer
          t.store.register ∧
          ∀ queue, s.store.register.held queue "ada@x.edu" (fun _ => true) ≤
            t.store.register.held queue "ada@x.edu" fun _ => true := by
  intro s draft x
  have fresh : s.store.register.Fresh [Id.ofNat 2] := Store.fresh_after (Register.fresh_empty (by decide +kernel))
  refine ⟨?_, update_is_atomic _ _ _ _ formed_bookedHour fresh (by simp [stuckRelease])⟩
  rw [Action.Ends]
  decide +kernel

end Desk

end Bookings
