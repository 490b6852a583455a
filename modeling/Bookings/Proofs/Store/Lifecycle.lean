import Mathlib.Data.List.Forall2
import Mathlib.Data.List.InsertIdx
import Bookings.Proofs.Store.Written

namespace Bookings

theorem SublistForall₂.comp {α : Type} {R S : α → α → Prop} {as bs cs : List α} (first : List.SublistForall₂ R as bs)
    (second : List.SublistForall₂ S bs cs) : List.SublistForall₂ (fun a c => ∃ b, R a b ∧ S b c) as cs := by
  induction second generalizing as with
  | nil =>
    cases first
    exact .nil
  | cons related _ ih =>
    cases first with
    | nil => exact .nil
    | cons before rest => exact .cons ⟨_, before, related⟩ (ih rest)
    | cons_right rest => exact .cons_right (ih rest)
  | cons_right _ ih => exact .cons_right (ih first)

/-- What an answered call may have made of a row: the row stays where it is, and changes hands or texts only by a call
that names it, its present student among them. -/
structure Slot.Lives (x : Exchange) (old new : Slot) : Prop where
  stays : new = { old with student := new.student, details := new.details }
  released : ∀ {email}, old.student = some email → new.student = none → x = ⟨.release old.id email, .ok true⟩
  claimed : ∀ {email}, old.student = none → new.student = some email →
    ∃ queue w timeslot capacity, x = ⟨.claim queue w timeslot capacity email, .ok new⟩
  settled : ∀ {email other}, old.student = some email → new.student = some other → other = email
  edited : new.details ≠ old.details →
    ∃ email, old.student = some email ∧ x = ⟨.edit old.id email new.details, .ok ()⟩

theorem Slot.Lives.of_student {x : Exchange} {old new : Slot}
    (stays : new = { old with student := new.student, details := new.details }) (same : new.student = old.student)
    (edited : new.details ≠ old.details →
      ∃ email, old.student = some email ∧ x = ⟨.edit old.id email new.details, .ok ()⟩) : old.Lives x new where
  stays := stays
  released := by
    intro email held vacant
    rw [same, held] at vacant
    contradiction
  claimed := by
    intro email vacant held
    rw [same, vacant] at held
    contradiction
  settled := by
    intro email other held given
    rw [same, held] at given
    exact (Option.some.inj given).symm
  edited := edited

theorem Slot.Lives.refl (x : Exchange) (row : Slot) : row.Lives x row :=
  .of_student rfl rfl fun changed => absurd rfl changed

theorem Slot.Lives.of_held {x : Exchange} {old new : Slot} {email : String} (lives : old.Lives x new)
    (held : old.student = some email) :
    new = old ∨ (∃ details, x = ⟨.edit old.id email details, .ok ()⟩ ∧ new = { old with details }) ∨
      x = ⟨.release old.id email, .ok true⟩ ∧ new = { old with student := none } := by
  have stays := lives.stays
  by_cases texts : new.details = old.details
  · cases given : new.student with
    | none =>
      rw [given, texts] at stays
      exact .inr (.inr ⟨lives.released held given, stays⟩)
    | some other =>
      rw [given, lives.settled held given, ← held, texts] at stays
      exact .inl stays
  · obtain ⟨holder, his, asked⟩ := lives.edited texts
    cases held.symm.trans his
    refine .inr (.inl ⟨new.details, asked, ?_⟩)
    cases given : new.student with
    | none => cases asked.symm.trans (lives.released held given)
    | some other =>
      rw [given, lives.settled held given, ← held] at stays
      exact stays

theorem exists_of_mem_sublistForall₂ {α : Type} {R : α → α → Prop} {as bs : List α}
    (related : List.SublistForall₂ R as bs) {a : α} (member : a ∈ as) : ∃ b ∈ bs, R a b := by
  induction related with
  | nil => contradiction
  | cons first _ ih =>
    rcases List.mem_cons.mp member with rfl | later
    · exact ⟨_, List.mem_cons_self, first⟩
    · obtain ⟨b, present, same⟩ := ih later
      exact ⟨b, List.mem_cons_of_mem _ present, same⟩
  | cons_right _ ih =>
    obtain ⟨b, present, same⟩ := ih member
    exact ⟨b, List.mem_cons_of_mem _ present, same⟩

def Slot.Lived : List Exchange → Slot → Slot → Prop
  | [], old, new => new = old
  | x :: xs, old, new => ∃ between, old.Lives x between ∧ between.Lived xs new

namespace Queue

theorem rows_sublist_insert (q : Queue) (slot : Slot) : q.rows.Sublist (q.insert slot).rows := by
  obtain ⟨front, back, before, after⟩ := q.rows_insert_between slot
  rw [before, after]
  exact (List.sublist_cons_self slot back).append_left front

theorem rows_sublist_foldl_insert (q : Queue) (slots : List Slot) : q.rows.Sublist (slots.foldl insert q).rows := by
  induction slots generalizing q with
  | nil => exact List.Sublist.refl _
  | cons slot slots ih => exact (q.rows_sublist_insert slot).trans (ih (q.insert slot))

variable {x : Exchange} {q : Queue}

theorem lives_of_sublist {rows : List Slot} (kept : q.rows.Sublist rows) :
    List.SublistForall₂ (Slot.Lives x) q.rows rows :=
  List.sublistForall₂_iff.mpr ⟨q.rows, List.forall₂_same.mpr fun row _ => .refl x row, kept⟩

theorem lives_modify (distinct : q.Distinct) {id : Id} {f : Slot → Slot}
    (lives : ∀ row ∈ q.rows, row.id = id → row.Lives x (f row)) :
    List.SublistForall₂ (Slot.Lives x) q.rows (q.modify id f).rows := by
  refine List.sublistForall₂_iff.mpr ⟨_, ?_, List.Sublist.refl _⟩
  rw [rows_modify distinct, List.forall₂_map_right_iff, List.forall₂_same]
  intro row member
  split
  · rename_i named
    exact lives row member named
  · exact .refl x row

end Queue

namespace Register

/-- What an answered call may have made of the state: the rows live on in their order, and a schedule was replaced only
where no row lay in its window. -/
structure Advances (x : Exchange) (r t : Register) : Prop where
  rows : ∀ queue, List.SublistForall₂ (Slot.Lives x) (r.rows queue) (t.rows queue)
  schedules : ∀ {queue weekday}, t.schedule? queue weekday ≠ r.schedule? queue weekday →
    ∃ schedule w, x = ⟨.replaceSchedule queue schedule w, .ok ()⟩ ∧ schedule.weekday = weekday ∧
      ∀ row ∈ r.rows queue, w.contains row.scheduledTime = false

theorem Advances.of_same {x : Exchange} {r t : Register} (same : t.Same r) : r.Advances x t where
  rows := by
    intro queue
    rw [same.rows]
    exact Queue.lives_of_sublist (List.Sublist.refl _)
  schedules := fun changed => absurd (congrFun (congrFun same.schedule? _) _) changed

theorem Advances.congr {x : Exchange} {r s t : Register} (advances : r.Advances x s) (same : t.Same s) :
    r.Advances x t where
  rows := by
    intro queue
    rw [same.rows]
    exact advances.rows queue
  schedules := by
    intro queue weekday changed
    rw [same.schedule?] at changed
    exact advances.schedules changed

theorem Advances.of_held {x : Exchange} {r t : Register} (advances : r.Advances x t) {queue : Id} {row : Slot}
    {email : String} (member : row ∈ r.rows queue) (held : row.student = some email) :
    row ∈ t.rows queue ∨
      (∃ details, x = ⟨.edit row.id email details, .ok ()⟩ ∧ { row with details } ∈ t.rows queue) ∨
        x = ⟨.release row.id email, .ok true⟩ ∧ { row with student := none } ∈ t.rows queue := by
  obtain ⟨new, present, lives⟩ := exists_of_mem_sublistForall₂ (advances.rows queue) member
  rcases lives.of_held held with rfl | ⟨details, edited, rfl⟩ | ⟨released, rfl⟩
  · exact .inl present
  · exact .inr (.inl ⟨details, edited, present⟩)
  · exact .inr (.inr ⟨released, present⟩)

theorem schedule?_changed {r : Register} {queue other : Id} {schedule : Schedule} {weekday : UInt8}
    (changed : (r.apply (.scheduleReplaced queue schedule)).schedule? other weekday ≠ r.schedule? other weekday) :
    other = queue ∧ schedule.weekday = weekday := by
  rw [schedule?_eq, content_apply, schedule?_eq] at changed
  split at changed
  · rename_i own
    refine ⟨own, UInt8.toNat_inj.mp (Classical.byContradiction fun differ => changed ?_)⟩
    change ((r.content other).setSchedule schedule.weekday schedule).schedule? weekday = _
    rw [Queue.schedule?, Queue.setSchedule, Vector.getElem?_setIfInBounds, if_neg differ, Queue.schedule?]
  · contradiction

theorem Orderly.eq_of_slot? {r : Register} (orderly : r.Orderly) {queue id : Id} {slot row : Slot}
    (present : (r.content queue).slot? id = some slot) (member : row ∈ r.rows queue) (named : row.id = id) :
    row = slot := by
  obtain ⟨stored, same⟩ := Queue.mem_of_slot? present
  exact List.inj_on_of_nodup_map (orderly.distinct queue) member stored (named.trans same.symm)

theorem eq_of_taken {q : Queue} (distinct : q.Distinct) {row slot : Slot} {student : Option String}
    (member : row ∈ q.rows) (taken : (q.setStudent row.id student).slot? row.id = some slot) :
    slot = { row with student } := by
  obtain ⟨present, named⟩ := Queue.mem_of_slot? taken
  rw [Queue.setStudent, Queue.rows_modify distinct, List.mem_map] at present
  obtain ⟨old, stored, changed⟩ := present
  split at changed
  · rename_i same
    rw [← changed, List.inj_on_of_nodup_map distinct stored member same]
  · rename_i differs
    exact absurd ((congrArg Slot.id changed).trans named) differs

theorem Admits.lives {r : Register} {c : Call} {e : Event} {a : c.Answer} (admitted : r.Admits c e a)
    (orderly : r.Orderly) :
    List.SublistForall₂ (Slot.Lives ⟨c, a⟩) (r.rows e.queue) ((r.content e.queue).apply e).rows := by
  cases admitted with
  | replaceSchedule vacant => exact Queue.lives_of_sublist (List.Sublist.refl _)
  | insert small room free => exact Queue.lives_of_sublist (Queue.rows_sublist_insert _ _)
  | publish filled small => exact Queue.lives_of_sublist (Queue.rows_sublist_foldl_insert _ _)
  | edit indexed present held =>
    rename_i id home email details slot
    refine Queue.lives_modify (orderly.distinct home) fun row member named => ?_
    rw [← orderly.eq_of_slot? present member named] at held
    subst named
    exact .of_student rfl rfl fun _ => ⟨email, held, rfl⟩
  | release indexed present held =>
    rename_i id home email slot
    refine Queue.lives_modify (orderly.distinct home) fun row member named => ?_
    rw [← orderly.eq_of_slot? present member named] at held
    subst named
    exact {
      stays := rfl
      released := by
        intro holder his _
        rw [Option.some.inj (his.symm.trans held)]
      claimed := by
        intro holder vacant
        rw [held] at vacant
        contradiction
      settled := nofun
      edited := fun changed => absurd rfl changed }
  | claim room first taken =>
    rename_i queue w timeslot capacity email row slot
    have member := mem_of_find?_atTimeslot first
    have vacant := vacant_of_find? first
    refine Queue.lives_modify (orderly.distinct queue) fun other present named => ?_
    cases List.inj_on_of_nodup_map (orderly.distinct queue) present member named
    rw [eq_of_taken (orderly.distinct queue) member taken]
    exact {
      stays := rfl
      released := nofun
      claimed := by
        intro holder _ his
        cases his
        exact ⟨queue, w, timeslot, capacity, rfl⟩
      settled := by
        intro holder other his
        rw [vacant] at his
        contradiction
      edited := fun changed => absurd rfl changed }

theorem Admits.advances {r : Register} {c : Call} {e : Event} {a : c.Answer} (admitted : r.Admits c e a)
    (orderly : r.Orderly) : r.Advances ⟨c, a⟩ (r.apply e) where
  rows := by
    intro queue
    by_cases own : queue = e.queue
    · rw [own, rows_apply_self]
      exact admitted.lives orderly
    · rw [rows_apply_other r e own]
      exact Queue.lives_of_sublist (List.Sublist.refl _)
  schedules := by
    intro queue weekday changed
    cases admitted with
    | replaceSchedule vacant =>
      rename_i home schedule w
      obtain ⟨rfl, same⟩ := schedule?_changed changed
      refine ⟨schedule, w, rfl, same, fun row member => ?_⟩
      rw [Queue.within_eq_filter (orderly.sorted queue), List.filter_eq_nil_iff] at vacant
      exact Bool.eq_false_iff.mpr (vacant row member)
    | _ =>
      rw [schedule?_apply _ fun _ _ same => Event.noConfusion same] at changed
      contradiction

end Register

namespace Store

theorem Outcome.advances {s t : Store} {c : Call} {a : c.Answer} (outcome : s.Outcome c a t)
    (orderly : s.register.Orderly) : s.register.Advances ⟨c, a⟩ t.register := by
  rcases outcome.quiet_or_applied with ⟨_, same⟩ | ⟨e, admitted, same⟩
  · exact .of_same same
  · exact (admitted.advances orderly).congr same

theorem advances_answer {s : Store} (orderly : s.register.Orderly) (c : Call) :
    s.register.Advances ⟨c, (s.answer c).1⟩ (s.answer c).2.register := (s.outcome c).advances orderly

theorem orderly_after {s : Store} {calls : List Call} (orderly : s.register.Orderly) (supplied : s.Supplied calls) :
    (s.after calls).register.Orderly :=
  keeps_after Register.orderly_keeps (fun _ _ _ => True.intro) supplied orderly

theorem lived_after {s : Store} {calls : List Call} (orderly : s.register.Orderly) (supplied : s.Supplied calls)
    (queue : Id) :
    List.SublistForall₂ (Slot.Lived (s.history calls)) (s.register.rows queue) ((s.after calls).register.rows queue) := by
  induction calls generalizing s with
  | nil =>
    exact List.sublistForall₂_iff.mpr ⟨_, List.forall₂_same.mpr fun row _ => rfl, List.Sublist.refl _⟩
  | cons c calls ih =>
    have rest := ih (keeps_answer Register.orderly_keeps True.intro supplied.1 orderly) supplied.2
    exact SublistForall₂.comp ((advances_answer orderly c).rows queue) rest

/-- Whatever calls are made by any clients, each leaves the rows that it finds in their places and their order, and
gives them to a student, takes them from one, changes their texts or replaces a schedule only as it was asked and
answered; so rows live on through all of them. -/
theorem rows_live_through_calls {s : Store} {calls : List Call} (orderly : s.register.Orderly)
    (supplied : s.Supplied calls) :
    (∀ n c, calls[n]? = some c →
      (s.after (calls.take n)).register.Advances ⟨c, ((s.after (calls.take n)).answer c).1⟩
        ((s.after (calls.take n)).answer c).2.register) ∧
      ∀ queue, List.SublistForall₂ (Slot.Lived (s.history calls)) (s.register.rows queue)
        ((s.after calls).register.rows queue) := by
  refine ⟨fun n c _ => ?_, lived_after orderly supplied⟩
  rw [← List.take_append_drop n calls] at supplied
  exact advances_answer (orderly_after orderly supplied.of_append.1) c

theorem rows_live_through_calls_busyCalls :
    let s := (Store.open {}).after (busyCalls.take 2)
    let calls := busyCalls.drop 2
    (s.register.rows (Id.ofNat 7)).map Slot.student = [none, none] ∧
      ((s.after (calls.take 1)).register.rows (Id.ofNat 7)).map Slot.student = [some "ada@x.edu", none] ∧
      ((s.after calls).register.rows (Id.ofNat 7)).map Slot.student = [none, none] ∧
      ((s.after calls).register.rows (Id.ofNat 7)).map (fun row => row.details.name) = ["Ada L.", "Ada"] ∧
      (s.after (calls.take 4)).register.Advances
        ⟨.release (Id.ofNat 1) "ada@x.edu", ((s.after (calls.take 4)).answer (.release (Id.ofNat 1) "ada@x.edu")).1⟩
        ((s.after (calls.take 4)).answer (.release (Id.ofNat 1) "ada@x.edu")).2.register ∧
      List.SublistForall₂ (Slot.Lived (s.history calls)) (s.register.rows (Id.ofNat 7))
        ((s.after calls).register.rows (Id.ofNat 7)) := by
  dsimp only
  have supplied : (Store.open {}).Supplied (busyCalls.take 2 ++ busyCalls.drop 2) :=
    supplied_of_fresh (Register.fresh_empty (by decide +kernel))
  have orderly := orderly_after Register.orderly_empty supplied.of_append.1
  obtain ⟨step, whole⟩ := rows_live_through_calls orderly supplied.of_append.2
  exact ⟨by decide +kernel, by decide +kernel, by decide +kernel, by decide +kernel, step 4 _ rfl, whole (Id.ofNat 7)⟩

end Store

end Bookings
