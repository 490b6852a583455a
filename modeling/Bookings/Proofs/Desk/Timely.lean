import Bookings.Proofs.Desk.Requests
import Bookings.Proofs.Desk.Upcoming

namespace Bookings

def Slot.Timed (z : Zone) (s : Slot) : Prop :=
  s.scheduledTime.toInt = z.midnight (z.dayOf s.scheduledTime.toInt) + s.timeslot.toNat * minutesMs s.duration

theorem Slot.timed_iff {z : Zone} {now : Instant} {weekday : UInt8} {w : Span} {s : Slot}
    (bounds : weekdayBounds weekday now z = some w) (early : s.timeslot.toNat < minutesPerDay)
    (inside : w.contains s.scheduledTime = true) :
    s.Timed z ↔ s.scheduledTime = slotStart w s.timeslot s.duration := by
  obtain ⟨_, start, _, _⟩ := weekdayBounds_spec bounds
  rw [contains_iff_dayOf bounds] at inside
  rw [← Int64.toInt_inj, slotStart_toInt bounds early, Timed, inside, start]

namespace Register

structure Timely (z : Zone) (r : Register) : Prop where
  formed : r.WellFormed
  valid : Schedules.Valid r.schedule?
  timed : ∀ queue, ∀ row ∈ r.rows queue, row.Timed z
  near : ∀ queue, ∀ row ∈ r.rows queue, row.scheduledTime < farFuture

theorem timely_empty (z : Zone) : empty.Timely z where
  formed := wellFormed_empty
  valid := (booked_empty z 0).valid
  timed := by simp
  near := by simp

theorem Timely.of_same {z : Zone} {r s : Register} (timely : r.Timely z) (same : s.Same r) : s.Timely z where
  formed := timely.formed.of_same same
  valid := by
    rw [same.schedule?]
    exact timely.valid
  timed := by
    simp only [same.rows]
    exact timely.timed
  near := by
    simp only [same.rows]
    exact timely.near

theorem Admits.created_timed {d : Desk} {op : Operation} {r : Register} {c : Call} {e : Event} {a : c.Answer}
    (admitted : r.Admits c e a) (makes : d.Makes op r.schedule? c) (valid : Schedules.Valid r.schedule?) {row : Slot}
    (created : row ∈ e.created) : row.Timed d.zone := by
  rcases makes with reads | writes
  · cases admitted <;> contradiction
  · cases admitted with
    | insert small room free =>
      cases List.mem_singleton.mp created
      cases writes with
      | signup bounds stored seats ahead =>
        have checked := valid _ _ _ stored
        have present := Schedule.lt_timeslots seats
        refine (Slot.timed_iff bounds ?_ ?_).mpr rfl
        · exact Schedule.lt_minutesPerDay checked present
        · exact Schedule.contains_startOf checked bounds present
      | move bounds stored seats fits ahead =>
        rw [Desk.fitsDay, Bool.and_eq_true] at fits
        refine (Slot.timed_iff bounds ?_ ?_).mpr rfl
        · exact Schedule.lt_minutesPerDay (valid _ _ _ stored) (Schedule.lt_timeslots seats)
        · exact fits.1
    | publish filled small =>
      obtain ⟨slot, published, rfl⟩ := List.mem_map.mp created
      cases writes with
      | publish bounds stored placed =>
        obtain ⟨present, start, length⟩ := placed slot published
        have checked := valid _ _ _ stored
        have inside := Schedule.contains_startOf checked bounds present
        rw [← start] at inside
        rw [Schedule.startOf, ← length] at start
        show slot.Timed d.zone
        exact (Slot.timed_iff bounds (Schedule.lt_minutesPerDay checked present) inside).mpr start
    | _ => exact absurd created List.not_mem_nil

theorem timely_keeps (d : Desk) (op : Operation) : Keeps (Timely d.zone) (d.Makes op) where
  same := fun same timely => timely.of_same same
  apply := by
    intro r c e a admitted makes fresh timely
    have fits := makes.permits.1
    refine ⟨timely.formed.apply fresh admitted.addressed, admitted.valid fits timely.valid, ?_, ?_⟩
    · intro queue row member
      rcases mem_rows_apply member with ⟨old, present, changed⟩ | ⟨_, created⟩
      · rw [changed]
        exact timely.timed queue old present
      · exact admitted.created_timed makes timely.valid created
    · intro queue row member
      rcases mem_rows_apply member with ⟨old, present, changed⟩ | ⟨_, created⟩
      · rw [changed]
        exact timely.near queue old present
      · exact admitted.created_near fits timely.valid created

end Register

namespace Service

variable {ids : Nat → Id} {zone : Zone} {vs : List Visit} {v : Visit}

theorem visits_append (s : Service) (us vs : List Visit) :
    s.visits ids zone (us ++ vs) = (s.visits ids zone us).visits ids zone vs := List.foldl_append

theorem timely_visits {disk : Log.Disk} {last : Nat} (blank : disk.bytes = [])
    (fresh : ((List.range last).map ids).Nodup) (enough : ((start disk).visits ids zone vs).minted ≤ last) :
    ((start disk).visits ids zone vs).Safe (Register.Timely zone) ids last [] :=
  safe_visits (fun now op => Register.timely_keeps ⟨zone, now⟩ op)
    (safe_start blank (Register.timely_empty zone) fresh) enough

theorem safe_before_last {disk : Log.Disk} (blank : disk.bytes = [])
    (fresh : ((List.range ((start disk).visits ids zone (vs ++ [v])).minted).map ids).Nodup) :
    ((start disk).visits ids zone vs).Safe (Register.Timely zone) ids
        ((start disk).visits ids zone (vs ++ [v])).minted [] ∧
      ((start disk).visits ids zone (vs ++ [v])).Safe (Register.Timely zone) ids
        ((start disk).visits ids zone (vs ++ [v])).minted [] := by
  refine ⟨timely_visits blank fresh ?_, timely_visits blank fresh (Nat.le_refl _)⟩
  rw [visits_append]
  exact minted_le_visits [v] _

theorem performs_last {disk : Log.Disk} (blank : disk.bytes = [])
    (fresh : ((List.range ((start disk).visits ids zone (vs ++ [v])).minted).map ids).Nodup) :
    ∃ told taken,
      ((start disk).visits ids zone vs).store.Answers v.faults told ((start disk).visits ids zone (vs ++ [v])).store ∧
      (Desk.mk zone v.now).Performs v.operation told taken (((start disk).visits ids zone vs).reply ids zone v) ∧
      ((start disk).visits ids zone vs).store.register.Fresh taken ∧
      ((start disk).visits ids zone vs).store.register.Timely zone ∧
      ((start disk).visits ids zone (vs ++ [v])).store.register.Timely zone := by
  obtain ⟨before, after⟩ := safe_before_last blank fresh
  obtain ⟨told, answers, performs⟩ := told_visit ((Desk.mk zone v.now).tells_perform v.operation)
    ((start disk).visits ids zone vs)
  have unused := before.fresh
  rw [visits_append] at after unused ⊢
  exact ⟨told, _, answers, performs, unused, before.holds, after.holds⟩

theorem working_visits {disk : Log.Disk} (working : disk.Working) :
    ((start disk).visits ids zone vs).store.journal.Working := by
  have kept : ∀ s : Service, s.store.journal.Working → (s.visits ids zone vs).store.journal.Working := by
    induction vs with
    | nil => exact fun _ working => working
    | cons v vs ih => exact fun s working => ih _ (Plan.working_run working)
  exact kept (start disk) (Log.Journal.working_open working)

end Service

end Bookings
