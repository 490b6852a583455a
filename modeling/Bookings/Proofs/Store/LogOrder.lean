import Bookings.Proofs.Store.Snapshot
import Bookings.Proofs.Store.Written

namespace Bookings

/-- Two lists of events are the same for each queue: they differ at most in how the events of different queues are
mixed. -/
def Event.SamePerQueue (es fs : List Event) : Prop :=
  ∀ queue, (es.filter fun e => e.queue = queue) = fs.filter fun e => e.queue = queue

def Event.HousedOnce (es : List Event) : Prop :=
  ∀ e ∈ es, ∀ f ∈ es, ∀ id ∈ e.newIds, id ∈ f.newIds → e.queue = f.queue

namespace Event

variable {es fs : List Event}

theorem SamePerQueue.symm (same : SamePerQueue es fs) : SamePerQueue fs es := fun queue => (same queue).symm

theorem SamePerQueue.subset (same : SamePerQueue es fs) : fs ⊆ es := by
  intro e member
  have mine : e ∈ fs.filter fun f => f.queue = e.queue := List.mem_filter.mpr ⟨member, decide_eq_true rfl⟩
  rw [← same e.queue] at mine
  exact (List.mem_filter.mp mine).1

/-- The events that create a row all belong to one queue, so what holds of the queue's events holds of them. -/
theorem filter_creators (housed : HousedOnce es) {e : Event} (member : e ∈ es) {id : Id} (new : id ∈ e.newIds) :
    (es.filter fun f => id ∈ f.newIds) = (es.filter fun f => f.queue = e.queue).filter fun f => id ∈ f.newIds := by
  rw [List.filter_filter]
  apply List.filter_congr
  intro f present
  by_cases created : id ∈ f.newIds
  · simp [created, housed f present e member id created new]
  · simp [created]

theorem SamePerQueue.creators (same : SamePerQueue es fs) (housed : HousedOnce es) (id : Id) :
    (es.filter fun e => id ∈ e.newIds) = fs.filter fun e => id ∈ e.newIds := by
  have among := same.subset
  by_cases created : ∃ e ∈ es, id ∈ e.newIds
  · obtain ⟨e, member, new⟩ := created
    have others : HousedOnce fs := fun f first g second => housed f (among first) g (among second)
    rw [filter_creators housed member new, same e.queue, ← filter_creators others (same.symm.subset member) new]
  · have none : ∀ {gs : List Event}, gs ⊆ es → (gs.filter fun e => id ∈ e.newIds) = [] := by
      intro gs fewer
      rw [List.filter_eq_nil_iff]
      exact fun e member new => created ⟨e, fewer member, of_decide_eq_true new⟩
    rw [none (List.Subset.refl es), none among]

end Event

namespace Register

theorem queue?_applyAll (r : Register) (es : List Event) (queue : Id) :
    (r.applyAll es).queue? queue =
      (es.filter fun e => e.queue = queue).foldl (fun q e => some ((q.getD .empty).apply e)) (r.queue? queue) := by
  induction es generalizing r with
  | nil => rfl
  | cons e es ih =>
    have rest := ih (r.apply e)
    rw [queue?_apply] at rest
    rw [List.filter_cons]
    by_cases own : e.queue = queue
    · rw [if_pos (decide_eq_true own), List.foldl_cons]
      rw [if_pos own.symm] at rest
      exact rest
    · rw [if_neg (by simpa using own)]
      rw [if_neg (Ne.symm own)] at rest
      exact rest

theorem homes_applyAll (r : Register) (es : List Event) (id : Id) :
    (r.applyAll es).homes[id]? =
      ((es.filter fun e => id ∈ e.newIds).getLast?.map Event.queue).or r.homes[id]? := by
  induction es generalizing r with
  | nil => rfl
  | cons e es ih =>
    have rest := ih (r.apply e)
    rw [homes_apply, getElem?_foldl_insert, ← Event.newIds] at rest
    rw [List.filter_cons]
    by_cases new : id ∈ e.newIds
    · rw [if_pos (decide_eq_true new), List.getLast?_cons]
      rw [if_pos new] at rest
      refine rest.trans ?_
      cases (es.filter fun f => id ∈ f.newIds).getLast? <;> rfl
    · rw [if_neg (by simpa using new)]
      rw [if_neg new] at rest
      exact rest

theorem applyAll_eq_of_same {es fs : List Event} (same : Event.SamePerQueue es fs) (housed : Event.HousedOnce es)
    (r : Register) : r.applyAll es = r.applyAll fs := by
  have queues : (r.applyAll es).queues = (r.applyAll fs).queues := by
    refine Std.ExtTreeMap.ext_getElem? fun queue => ?_
    change (r.applyAll es).queue? queue = (r.applyAll fs).queue? queue
    rw [queue?_applyAll, queue?_applyAll, same queue]
  have homes : (r.applyAll es).homes = (r.applyAll fs).homes := by
    refine Std.ExtTreeMap.ext_getElem? fun id => ?_
    rw [homes_applyAll, homes_applyAll, same.creators housed id]
  exact congrArg₂ Register.mk queues homes

end Register

namespace Store

theorem register_open_records {es : List Event} (short : ∀ e ∈ es, Log.Short e) :
    (Store.open (.ofBytes (Log.records es))).register = Register.ofEvents es :=
  congrArg Register.ofEvents (Log.replay_records short)

/-- The order in which a log has the events of different queues makes no difference to what is opened from it: the
same queues exist with the same schedules and rows, and the index leads to the same queues. -/
theorem order_across_queues_unobservable {es fs : List Event} (short : ∀ e ∈ es, Log.Short e)
    (same : Event.SamePerQueue es fs) (housed : Event.HousedOnce es) :
    (Store.open (.ofBytes (Log.records es))).register = (Store.open (.ofBytes (Log.records fs))).register := by
  rw [register_open_records short, register_open_records fun e member => short e (same.subset member)]
  exact Register.applyAll_eq_of_same same housed .empty

def mixedEvents : List Event :=
  let row (id queue : Nat) : Slot := { bookedRow with id := Id.ofNat id, queue := Id.ofNat queue, student := none }
  [.slotsPublished (Id.ofNat 7) [row 1 7, row 2 7],
    .slotCreated (row 3 8),
    .slotClaimed (Id.ofNat 2) (Id.ofNat 7) "ada@x.edu",
    .scheduleReplaced (Id.ofNat 8) ⟨3, 30, ⟨[]⟩⟩,
    .detailsEdited (Id.ofNat 9) (Id.ofNat 7) bookedRow.details]

theorem order_across_queues_unobservable_mixedEvents :
    let parted := (mixedEvents.filter fun e => e.queue = Id.ofNat 8) ++
      mixedEvents.filter fun e => e.queue = Id.ofNat 7
    let s := Store.open (.ofBytes (Log.records mixedEvents))
    parted ≠ mixedEvents ∧ s.register = (Store.open (.ofBytes (Log.records parted))).register ∧
      (s.register.rows (Id.ofNat 7)).map (fun row => (row.id, row.student)) =
        [(Id.ofNat 1, none), (Id.ofNat 2, some "ada@x.edu")] := by
  intro parted s
  have short : ∀ e ∈ mixedEvents, Log.Short e := by decide +kernel
  have known : ∀ e ∈ mixedEvents ++ parted, e.queue = Id.ofNat 7 ∨ e.queue = Id.ofNat 8 := by decide +kernel
  have same : Event.SamePerQueue mixedEvents parted := by
    intro queue
    by_cases first : queue = Id.ofNat 7
    · rw [first]
      decide +kernel
    by_cases second : queue = Id.ofNat 8
    · rw [second]
      decide +kernel
    have absent : ∀ e ∈ mixedEvents ++ parted, ¬decide (e.queue = queue) = true := by
      intro e member own
      rcases known e member with named | named
      · exact first ((of_decide_eq_true own).symm.trans named)
      · exact second ((of_decide_eq_true own).symm.trans named)
    obtain ⟨before, behind⟩ := List.forall_mem_append.mp absent
    rw [List.filter_eq_nil_iff.mpr before, List.filter_eq_nil_iff.mpr behind]
  have housed : Event.HousedOnce mixedEvents := by
    unfold Event.HousedOnce
    decide +kernel
  refine ⟨by decide +kernel, order_across_queues_unobservable short same housed, ?_⟩
  rw [register_open_records short]
  decide +kernel

end Store

end Bookings
