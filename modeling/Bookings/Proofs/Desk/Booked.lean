import Bookings.Proofs.Desk.Operation
import Bookings.Proofs.Desk.Runs
import Bookings.Proofs.Store.Capacity

namespace Bookings

def Schedules.capacity (schedules : Schedules) (queue : Id) (weekday : UInt8) (timeslot : UInt32) : Nat :=
  ((schedules queue weekday).bind fun schedule => schedule.capacityAt timeslot).getD 0

def Schedules.Valid (schedules : Schedules) : Prop :=
  ∀ queue weekday schedule, schedules queue weekday = some schedule → schedule.validate = .ok ()

theorem Schedules.capacity_eq {schedules : Schedules} {queue : Id} {weekday : UInt8} {schedule : Schedule}
    {timeslot : UInt32} {seats : Nat} (stored : schedules queue weekday = some schedule)
    (found : schedule.capacityAt timeslot = some seats) : schedules.capacity queue weekday timeslot = seats := by
  rw [capacity, stored, Option.bind_some, found, Option.getD_some]

theorem Call.Fits.counts {d : Desk} {schedules : Schedules} {c : Call} (fits : c.Fits d schedules)
    (valid : schedules.Valid) {weekday : UInt8} (known : weekday ≤ 6) (now : Instant) (queue : Id) (timeslot : UInt32) :
    c.CountsAt queue (d.zone.onDay (d.zone.sundayOf now + weekday.toNat)) timeslot
      (schedules.capacity queue weekday timeslot) := by
  have meet : ∀ {day : UInt8} {w : Span} {t : Instant}, weekdayBounds day d.now d.zone = some w →
      w.contains t = true → d.zone.onDay (d.zone.sundayOf now + weekday.toNat) t = true →
        day = weekday ∧ w.contains = d.zone.onDay (d.zone.sundayOf now + weekday.toNat) := by
    intro day w t bounds inside on
    rw [contains_iff_dayOf bounds] at inside
    rw [Zone.onDay_iff, inside] at on
    obtain ⟨same, sunday⟩ := d.zone.sundayOf_add_inj (weekday_le bounds) known on
    rw [contains_eq_onDay bounds, same, sunday]
    exact ⟨rfl, rfl⟩
  cases c with
  | insert slot guard =>
    obtain ⟨day, schedule, bounds, stored, seats, inside⟩ := fits
    intro own at_ on
    obtain ⟨same, times⟩ := meet bounds (inside (valid _ _ _ stored)) on
    subst own at_ same
    exact ⟨times, Nat.le_of_eq (Schedules.capacity_eq stored seats).symm⟩
  | claim claimed w at_ capacity email =>
    obtain ⟨day, schedule, bounds, stored, seats⟩ := fits
    intro own slotted shared
    obtain ⟨t, on, inside⟩ := shared
    obtain ⟨same, times⟩ := meet bounds inside on
    subst own slotted same
    exact ⟨times, Nat.le_of_eq (Schedules.capacity_eq stored seats).symm⟩
  | _ => exact True.intro

/-- No row lies beyond the week of `now`, and the rows of each of its days fit the weekday's schedule: they
are at its timeslots, and no more of them are claimed than these have seats. -/
structure Register.Booked (z : Zone) (now : Instant) (r : Register) : Prop where
  orderly : r.Orderly
  valid : Schedules.Valid r.schedule?
  week : ∀ queue, ∀ row ∈ r.rows queue, z.dayOf row.scheduledTime.toInt ≤ z.sundayOf now + 6
  slotted : ∀ queue (weekday : UInt8), weekday ≤ 6 → ∀ row ∈ r.rows queue,
    z.onDay (z.sundayOf now + weekday.toNat) row.scheduledTime = true →
      ∃ schedule, r.schedule? queue weekday = some schedule ∧ row.timeslot.toNat < schedule.timeslots
  seated : ∀ queue (weekday : UInt8), weekday ≤ 6 → ∀ timeslot,
    r.taken queue (z.onDay (z.sundayOf now + weekday.toNat)) timeslot ≤
      Schedules.capacity r.schedule? queue weekday timeslot

namespace Register

theorem booked_empty (z : Zone) (now : Instant) : empty.Booked z now where
  orderly := orderly_empty
  valid := by
    intro queue weekday schedule stored
    rw [schedule?_eq, content_empty, Queue.schedule?_empty] at stored
    contradiction
  week := by
    intro queue row member
    rw [rows_empty] at member
    contradiction
  slotted := by
    intro queue weekday _ row member
    rw [rows_empty] at member
    contradiction
  seated := by
    intro queue weekday _ timeslot
    rw [taken, content_empty]
    exact Nat.zero_le _

theorem Booked.of_same {z : Zone} {now : Instant} {r s : Register} (booked : r.Booked z now) (same : s.Same r) :
    s.Booked z now where
  orderly := booked.orderly.of_same same
  valid := by
    rw [same.schedule?]
    exact booked.valid
  week := by
    intro queue
    rw [same.rows]
    exact booked.week queue
  slotted := by
    intro queue weekday known
    rw [same.rows, same.schedule?]
    exact booked.slotted queue weekday known
  seated := by
    intro queue weekday known timeslot
    rw [taken_of_same same, same.schedule?]
    exact booked.seated queue weekday known timeslot

theorem Booked.later {z : Zone} {now later : Instant} {r : Register} (booked : r.Booked z now)
    (ordered : now ≤ later) : r.Booked z later := by
  rcases z.sundayOf_eq_or_later ordered with same | past
  · constructor
    · exact booked.orderly
    · exact booked.valid
    · rw [same]
      exact booked.week
    · rw [same]
      exact booked.slotted
    · rw [same]
      exact booked.seated
  · -- The rows lie in the old week at the latest, so the days of the new one have none.
    have absent : ∀ queue, ∀ row ∈ r.rows queue, ∀ weekday : Nat,
        z.onDay (z.sundayOf later + weekday) row.scheduledTime = false := by
      intro queue row member weekday
      have last := booked.week queue row member
      rw [Zone.onDay, decide_eq_false_iff_not]
      omega
    constructor
    · exact booked.orderly
    · exact booked.valid
    · intro queue row member
      have last := booked.week queue row member
      omega
    · intro queue weekday _ row member on
      rw [absent queue row member] at on
      contradiction
    · intro queue weekday _ timeslot
      rw [taken, Queue.taken_eq_zero _ _ fun row member => absent queue row member _]
      exact Nat.zero_le _

theorem valid_scheduleReplaced {r : Register} {queue : Id} {schedule : Schedule}
    (stored : Schedules.Valid r.schedule?) (valid : schedule.validate = .ok ()) :
    Schedules.Valid (r.apply (.scheduleReplaced queue schedule)).schedule? := by
  intro other weekday held found
  rw [r.schedule?_replace queue other schedule weekday (schedule.validate_eq_ok_iff.mp valid).1] at found
  split at found
  · cases found
    exact valid
  · exact stored other weekday held found

theorem Admits.valid {d : Desk} {r : Register} {c : Call} {e : Event} {a : c.Answer} (admitted : r.Admits c e a)
    (fits : c.Fits d r.schedule?) (valid : Schedules.Valid r.schedule?) : Schedules.Valid (r.apply e).schedule? := by
  cases admitted with
  | replaceSchedule vacant => exact valid_scheduleReplaced valid fits.2
  | _ =>
    rw [schedule?_apply _ fun _ _ same => Event.noConfusion same]
    exact valid

theorem Admits.created_slotted {d : Desk} {r : Register} {c : Call} {e : Event} {a : c.Answer}
    (admitted : r.Admits c e a) (fits : c.Fits d r.schedule?) (valid : Schedules.Valid r.schedule?) {row : Slot}
    (created : row ∈ e.created) :
    ∃ weekday schedule, weekday ≤ 6 ∧
      d.zone.dayOf row.scheduledTime.toInt = d.zone.sundayOf d.now + weekday.toNat ∧
        r.schedule? e.queue weekday = some schedule ∧ row.timeslot.toNat < schedule.timeslots := by
  cases admitted with
  | insert small room free =>
    obtain ⟨weekday, schedule, bounds, stored, seats, inside⟩ := fits
    cases List.mem_singleton.mp created
    exact ⟨weekday, schedule, weekday_le bounds, (contains_iff_dayOf bounds _).mp (inside (valid _ _ _ stored)),
      stored, Schedule.lt_timeslots seats⟩
  | publish filled small =>
    obtain ⟨weekday, w, schedule, bounds, stored, placed⟩ := fits
    obtain ⟨slot, published, rfl⟩ := List.mem_map.mp created
    obtain ⟨present, inside⟩ := placed slot published
    exact ⟨weekday, schedule, weekday_le bounds, (contains_iff_dayOf bounds _).mp (inside (valid _ _ _ stored)),
      stored, present⟩
  | _ => exact absurd created List.not_mem_nil

theorem Booked.apply_keeping {d : Desk} {r : Register} {c : Call} {e : Event} {a : c.Answer}
    (booked : r.Booked d.zone d.now) (admitted : r.Admits c e a) (fits : c.Fits d r.schedule?)
    (fresh : r.Fresh e.newIds) (keeps : c.replaces = false) : (r.apply e).Booked d.zone d.now := by
  have schedules := admitted.keeps_schedules keeps
  constructor
  · exact booked.orderly.apply e fresh
  · rw [schedules]
    exact booked.valid
  · intro queue row member
    rcases mem_rows_apply member with ⟨old, present, changed⟩ | ⟨_, created⟩
    · rw [changed]
      exact booked.week queue old present
    · obtain ⟨weekday, schedule, known, day, _⟩ := admitted.created_slotted fits booked.valid created
      have bound := UInt8.le_iff_toNat_le.mp known
      change weekday.toNat ≤ 6 at bound
      omega
  · intro queue weekday known row member on
    rw [schedules]
    rcases mem_rows_apply member with ⟨old, present, changed⟩ | ⟨own, created⟩
    · rw [changed] at on ⊢
      exact booked.slotted queue weekday known old present on
    · obtain ⟨other, schedule, exists_, day, stored, present⟩ := admitted.created_slotted fits booked.valid created
      rw [Zone.onDay_iff, day] at on
      obtain ⟨same, _⟩ := d.zone.sundayOf_add_inj exists_ known on
      rw [own, ← same]
      exact ⟨schedule, stored, present⟩
  · intro queue weekday known timeslot
    rw [schedules]
    exact taken_apply_le booked.orderly admitted (fits.counts booked.valid known d.now queue timeslot)
      (booked.seated queue weekday known timeslot)

theorem Booked.apply_replacing {d : Desk} {r : Register} {queue : Id} {schedule : Schedule} {w : Span}
    (booked : r.Booked d.zone d.now) (vacant : (r.content queue).within w = [])
    (bounds : weekdayBounds schedule.weekday d.now d.zone = some w) (valid : schedule.validate = .ok ()) :
    (r.apply (.scheduleReplaced queue schedule)).Booked d.zone d.now := by
  have rows : ∀ other, (r.apply (.scheduleReplaced queue schedule)).rows other = r.rows other := by
    intro other
    rw [Register.rows, content_apply]
    split
    · exact Queue.rows_setSchedule _ _ _
    · rfl
  have schedules := r.schedule?_replace queue
  have absent : ∀ row ∈ r.rows queue,
      d.zone.onDay (d.zone.sundayOf d.now + schedule.weekday.toNat) row.scheduledTime = false := by
    intro row member
    rw [Queue.within_eq_filter (booked.orderly.sorted queue), List.filter_eq_nil_iff] at vacant
    rw [← contains_eq_onDay bounds]
    exact Bool.eq_false_iff.mpr (vacant row member)
  constructor
  · exact booked.orderly.apply _ ⟨List.nodup_nil, fun _ new => absurd new List.not_mem_nil⟩
  · exact valid_scheduleReplaced booked.valid valid
  · intro other row member
    rw [rows] at member
    exact booked.week other row member
  · intro other weekday known row member on
    rw [rows] at member
    rw [schedules _ _ _ (weekday_le bounds)]
    split
    · rename_i same
      rw [same.1] at member
      rw [same.2, absent row member] at on
      contradiction
    · exact booked.slotted other weekday known row member on
  · intro other weekday known timeslot
    rw [taken, Queue.taken, ← Register.rows, rows, Schedules.capacity, schedules _ _ _ (weekday_le bounds)]
    split
    · rename_i same
      have none := Queue.taken_eq_zero _ timeslot absent
      rw [same.1, same.2]
      exact Nat.le_trans (Nat.le_of_eq none) (Nat.zero_le _)
    · exact booked.seated other weekday known timeslot

theorem booked_keeps (d : Desk) (replacing : Bool) :
    Keeps (fun r => r.Booked d.zone d.now) (d.Permits replacing) where
  same := fun same booked => booked.of_same same
  apply := by
    intro r c e a admitted permitted fresh booked
    by_cases replaces : c.replaces = true
    · cases admitted <;> first | contradiction | skip
      rename_i vacant
      exact booked.apply_replacing vacant permitted.1.1 permitted.1.2
    · exact booked.apply_keeping admitted permitted.1 fresh (Bool.eq_false_iff.mpr replaces)

end Register

end Bookings
