import Bookings.Store.Basic
import Bookings.Proofs.Store.Content

namespace Bookings

def Slot.published (queue : Id) (slot : Slot) : Slot := { slot with queue, student := none }

/-- The event that a call records and the answer that it then gets, with what the state guarantees. -/
inductive Register.Admits (r : Register) : (c : Call) → Event → c.Answer → Prop
  | replaceSchedule {queue : Id} {schedule : Schedule} {w : Span}
      (vacant : (r.content queue).within w = []) :
      Admits r (.replaceSchedule queue schedule w) (.scheduleReplaced queue schedule) (.ok ())
  | insert {slot : Slot} {guard : Guard}
      (small : (r.rows slot.queue).length < maxSlotsPerQueue)
      (room : hasRoom (openSeats guard.capacity
        ((r.content slot.queue).atTimeslot guard.window slot.timeslot)) = true)
      (free : r.conflict? slot guard = none) :
      Admits r (.insert slot guard) (.slotCreated slot) (.ok slot)
  | publish {queue : Id} {slots : List Slot} (filled : slots ≠ [])
      (small : (r.rows queue).length + slots.length ≤ maxSlotsPerQueue) :
      Admits r (.publish queue slots) (.slotsPublished queue (slots.map (Slot.published queue)))
        (.ok slots.length)
  | edit {id home : Id} {email : String} {details : Details} {slot : Slot}
      (indexed : r.homes[id]? = some home) (present : (r.content home).slot? id = some slot)
      (held : slot.student = some email) :
      Admits r (.edit id email details) (.detailsEdited id home details) (.ok ())
  | release {id home : Id} {email : String} {slot : Slot}
      (indexed : r.homes[id]? = some home) (present : (r.content home).slot? id = some slot)
      (held : slot.student = some email) :
      Admits r (.release id email) (.claimReleased id home) (.ok true)
  | claim {queue : Id} {w : Span} {timeslot : UInt32} {capacity : Nat} {email : String} {row slot : Slot}
      (room : hasRoom (openSeats capacity ((r.content queue).atTimeslot w timeslot)) = true)
      (first : ((r.content queue).atTimeslot w timeslot).find? (fun row => !row.isClaimed) = some row)
      (taken : ((r.content queue).setStudent row.id (some email)).slot? row.id = some slot) :
      Admits r (.claim queue w timeslot capacity email) (.slotClaimed row.id queue email) (.ok slot)

def Call.acknowledges : (c : Call) → c.Answer → Bool
  | .replaceSchedule .., .ok _ => true
  | .insert .., .ok _ => true
  | .publish .., .ok count => count ≠ 0
  | .edit .., .ok _ => true
  | .release .., .ok released => released
  | .claim .., .ok _ => true
  | _, _ => false

@[simp]
theorem Call.acknowledges_error (c : Call) (e : StoreError) : c.acknowledges (.error e) = false := by
  cases c <;> rfl

namespace Register

theorem conflict?_of_same {r s : Register} (same : r.Same s) (slot : Slot) (guard : Guard) :
    r.conflict? slot guard = s.conflict? slot guard := by
  rw [conflict?, conflict?]
  split
  · rw [claimedBy_eq, claimedBy_eq, same.content]
  · rfl

theorem Admits.of_same {r s : Register} (same : r.Same s) {c : Call} {e : Event} {a : c.Answer}
    (admitted : s.Admits c e a) : r.Admits c e a := by
  cases admitted with
  | replaceSchedule vacant =>
    rw [← same.content] at vacant
    exact .replaceSchedule vacant
  | insert small room free =>
    rw [← same.rows] at small
    rw [← same.content] at room
    rw [← conflict?_of_same same] at free
    exact .insert small room free
  | publish filled small =>
    rw [← same.rows] at small
    exact .publish filled small
  | edit indexed present held =>
    rw [← same.homes] at indexed
    rw [← same.content] at present
    exact .edit indexed present held
  | release indexed present held =>
    rw [← same.homes] at indexed
    rw [← same.content] at present
    exact .release indexed present held
  | claim room first taken =>
    rw [← same.content] at room first taken
    exact .claim room first taken

theorem Admits.acknowledges {r : Register} {c : Call} {e : Event} {a : c.Answer} (admitted : r.Admits c e a) :
    c.acknowledges a = true := by
  cases admitted with
  | publish filled small => simpa [Call.acknowledges] using filled
  | _ => rfl

theorem resolve_eq_ok {r : Register} {id home : Id} {slot : Slot} (found : r.resolve id = .ok (home, slot)) :
    r.homes[id]? = some home ∧ (r.content home).slot? id = some slot := by
  rw [resolve] at found
  split at found
  · contradiction
  · rename_i queue indexed
    split at found
    · contradiction
    · rename_i q stored
      split at found
      · rename_i row present
        cases found
        refine ⟨indexed, ?_⟩
        rw [content, stored]
        exact present
      · contradiction

theorem mem_of_find?_atTimeslot {r : Register} {queue : Id} {w : Span} {timeslot : UInt32} {p : Slot → Bool}
    {row : Slot} (found : ((r.content queue).atTimeslot w timeslot).find? p = some row) :
    row ∈ r.rows queue := by
  have member := List.mem_of_find?_eq_some found
  rw [Queue.atTimeslot, Queue.within, List.mem_filter, Array.toList_extract, List.extract_eq_take_drop] at member
  exact List.mem_of_mem_drop (List.mem_of_mem_take member.1)

theorem vacant_of_find? {rows : List Slot} {row : Slot} (first : rows.find? (fun s => !s.isClaimed) = some row) :
    row.student = none := by
  have vacant := List.find?_some first
  simpa [Slot.isClaimed] using vacant

theorem slotIn_eq (r : Register) (queue id : Id) :
    r.slotIn queue id = match (r.content queue).slot? id with
      | some slot => .ok slot
      | none => .error (.notFound id) := by
  rw [slotIn, content]
  cases r.queue? queue with
  | none => rfl
  | some q => rfl

theorem slot?_setStudent (q : Queue) {row : Slot} (member : row ∈ q.rows) (student : Option String) :
    ∃ slot, (q.setStudent row.id student).slot? row.id = some slot := by
  have ids : (q.setStudent row.id student).rows.map Slot.id = q.rows.map Slot.id :=
    Queue.map_rows_modify Slot.id q row.id _ fun _ => rfl
  have named : row.id ∈ (q.setStudent row.id student).rows.map Slot.id := by
    rw [ids]
    exact List.mem_map_of_mem member
  obtain ⟨found, present, same⟩ := List.mem_map.mp named
  apply Option.isSome_iff_exists.mp
  rw [Queue.slot?_eq_find?, List.find?_isSome]
  exact ⟨found, present, decide_eq_true same⟩

inductive Decides (r : Register) (c : Call) : Decision c.Result → Prop
  | answer {a : c.Answer} (quiet : c.acknowledges a = false) : Decides r c (.answer a)
  | record {e : Event} {reply : Register → c.Answer} (admitted : r.Admits c e (reply (r.apply e))) :
      Decides r c (.record e reply)

theorem decides_insert (r : Register) (slot : Slot) (guard : Guard) :
    r.Decides (.insert slot guard) (r.decideInsert slot guard) := by
  rw [decideInsert, slotCount_eq, atTimeslot_eq]
  split
  · exact .answer rfl
  · rename_i small
    split
    · exact .answer rfl
    · rename_i room
      split
      · exact .answer rfl
      · rename_i free
        exact .record (.insert (by omega) (by simpa using room) free)

theorem decides_publish (r : Register) (queue : Id) (slots : List Slot) :
    r.Decides (.publish queue slots) (r.decidePublish queue slots) := by
  rw [decidePublish, slotCount_eq]
  split
  · exact .answer rfl
  · rename_i filled
    split
    · exact .answer rfl
    · rename_i small
      have some : slots ≠ [] := by simpa using filled
      refine .record ?_
      rw [List.length_map]
      exact .publish some (by omega)

theorem decides_edit (r : Register) (id : Id) (email : String) (details : Details) :
    r.Decides (.edit id email details) (r.decideEdit id email details) := by
  rw [decideEdit]
  cases found : r.resolve id with
  | error e => exact .answer rfl
  | ok row =>
    obtain ⟨indexed, present⟩ := resolve_eq_ok found
    dsimp only
    split
    · exact .answer rfl
    · rename_i holder held
      split
      · rename_i same
        exact .record (.edit indexed present (by rw [held, same]))
      · exact .answer rfl

theorem decides_release (r : Register) (id : Id) (email : String) :
    r.Decides (.release id email) (r.decideRelease id email) := by
  rw [decideRelease]
  cases found : r.resolve id with
  | error e => exact .answer rfl
  | ok row =>
    obtain ⟨indexed, present⟩ := resolve_eq_ok found
    dsimp only
    split
    · exact .answer rfl
    · rename_i holder held
      split
      · rename_i same
        exact .record (.release indexed present (by rw [held, same]))
      · exact .answer rfl

theorem decides_claim (r : Register) (queue : Id) (w : Span) (timeslot : UInt32) (capacity : Nat)
    (email : String) :
    r.Decides (.claim queue w timeslot capacity email) (r.decideClaim queue w timeslot capacity email) := by
  rw [decideClaim]
  split
  · exact .answer rfl
  · rename_i q stored
    have held : r.content queue = q := by rw [content, stored, Option.getD_some]
    rw [← held]
    dsimp only
    split
    · exact .answer rfl
    · rename_i room
      split
      · exact .answer rfl
      · rename_i row first
        obtain ⟨slot, taken⟩ := slot?_setStudent _ (mem_of_find?_atTimeslot first) (some email)
        have changed : (r.apply (.slotClaimed row.id queue email)).content queue =
            (r.content queue).setStudent row.id (some email) := content_apply_self r (.slotClaimed row.id queue email)
        refine .record ?_
        rw [slotIn_eq, changed, taken]
        exact .claim (by simpa using room) first taken

theorem decides (r : Register) (c : Call) : r.Decides c (r.decide c) := by
  cases c with
  | fetch id => exact .answer rfl
  | within queue w => exact .answer rfl
  | atTimeslot queue w timeslot => exact .answer rfl
  | claimedBy queue w email => exact .answer rfl
  | scheduleFor queue weekday => exact .answer rfl
  | allSchedules queue => exact .answer rfl
  | replaceSchedule queue schedule w =>
    simp only [decide, decideReplaceSchedule, within_eq]
    split
    · exact .answer rfl
    · exact .record (.replaceSchedule (List.eq_nil_of_length_eq_zero (by omega)))
  | insert slot guard => exact r.decides_insert slot guard
  | publish queue slots => exact r.decides_publish queue slots
  | edit id email details => exact r.decides_edit id email details
  | release id email => exact r.decides_release id email
  | claim queue w timeslot capacity email => exact r.decides_claim queue w timeslot capacity email

theorem prepare_eq_ok {r s : Register} {queue : Id} (prepared : r.prepare queue = .ok s) : s.Same r := by
  rw [prepare] at prepared
  split at prepared
  · cases prepared
    exact Same.refl r
  · split at prepared
    · cases prepared
    · cases prepared
      exact addQueue_same r queue

end Register

/-- What a call can come to: it is answered from the state, the log refuses its event, or the event is
logged and applied. -/
inductive Store.Outcome (s : Store) (c : Call) (a : c.Answer) (t : Store) : Prop
  | kept (same : t.register.Same s.register) (journal : t.journal = s.journal)
      (quiet : c.acknowledges a = false)
  | unlogged (e : Event) (hoped : c.Answer) (cause : Log.JournalError) (admitted : s.register.Admits c e hoped)
      (same : t.register.Same s.register) (refused : s.journal.write e = (.error cause, t.journal))
      (answer : a = .error (.logFailed (.journal cause)))
  | recorded (e : Event) (admitted : s.register.Admits c e a)
      (same : t.register.Same (s.register.apply e)) (logged : s.journal.write e = (.ok (), t.journal))

namespace Store

theorem Outcome.quiet_or_applied {s t : Store} {c : Call} {a : c.Answer} (outcome : s.Outcome c a t) :
    (c.acknowledges a = false ∧ t.register.Same s.register) ∨
      ∃ e, s.register.Admits c e a ∧ t.register.Same (s.register.apply e) := by
  cases outcome with
  | kept same journal quiet => exact .inl ⟨quiet, same⟩
  | unlogged e hoped cause admitted same refused answer =>
    rw [answer]
    exact .inl ⟨c.acknowledges_error _, same⟩
  | recorded e admitted same => exact .inr ⟨e, admitted, same⟩

theorem prepare_eq_ok {s t : Store} {c : Call} (prepared : s.prepare c = .ok t) :
    t.register.Same s.register ∧ t.journal = s.journal := by
  rw [prepare] at prepared
  split at prepared
  · cases prepared
    exact ⟨Register.Same.refl _, rfl⟩
  · split at prepared
    · rename_i register found
      cases prepared
      exact ⟨Register.prepare_eq_ok found, rfl⟩
    · cases prepared

theorem outcome (s : Store) (c : Call) : s.Outcome c (s.answer c).1 (s.answer c).2 := by
  rw [answer]
  split
  · exact .kept (Register.Same.refl _) rfl (c.acknowledges_error _)
  · rename_i t prepared
    obtain ⟨same, journal⟩ := prepare_eq_ok prepared
    have decided := t.register.decides c
    generalize t.register.decide c = decision at decided ⊢
    cases decided with
    | answer quiet => exact .kept same journal quiet
    | record admitted =>
      rename_i e reply
      have admitted := admitted.of_same same.symm
      rw [settle, commit, journal]
      cases logged : s.journal.write e with
      | mk result after =>
        cases result with
        | ok done => exact .recorded e admitted (same.apply e) logged
        | error cause => exact .unlogged e _ cause admitted same logged rfl

end Store

end Bookings
