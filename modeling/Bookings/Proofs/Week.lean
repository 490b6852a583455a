import Bookings.Week
import Bookings.Schedule.Basic

namespace Bookings

namespace Zone

def sundayOf (z : Zone) (now : Instant) : Int := z.dayOf now.toInt - weekdayOf (z.dayOf now.toInt)

theorem dayOf_eq_iff (z : Zone) (t day : Int) :
    z.dayOf t = day ↔ z.midnight day ≤ t ∧ t < z.midnight day + dayMs := by
  simp only [dayOf, midnight, dayMs]
  omega

theorem sundayOf_eq_or_later (z : Zone) {now later : Instant} (ordered : now ≤ later) :
    z.sundayOf later = z.sundayOf now ∨ z.sundayOf now + 7 ≤ z.sundayOf later := by
  rw [Int64.le_iff_toInt_le] at ordered
  simp only [sundayOf, weekdayOf, dayOf, dayMs]
  omega

theorem sundayOf_add_inj (z : Zone) {now other : Instant} {i j : UInt8} (left : i ≤ 6) (right : j ≤ 6)
    (same : z.sundayOf now + i.toNat = z.sundayOf other + j.toNat) : i = j ∧ z.sundayOf now = z.sundayOf other := by
  rw [UInt8.le_iff_toNat_le] at left right
  change i.toNat ≤ 6 at left
  change j.toNat ≤ 6 at right
  rw [← UInt8.toNat_inj]
  simp only [sundayOf, weekdayOf] at same ⊢
  omega

def onDay (z : Zone) (day : Int) (t : Instant) : Bool := z.dayOf t.toInt = day

theorem onDay_iff (z : Zone) (day : Int) (t : Instant) : z.onDay day t = true ↔ z.dayOf t.toInt = day := by
  rw [onDay, decide_eq_true_eq]

end Zone

theorem representable_bounds {t : Int} (held : representable t = true) :
    -8334601228800000 ≤ t ∧ t < 8210266876800000 := by
  rw [representable, dated, Bool.and_eq_true, decide_eq_true_eq, decide_eq_true_eq] at held
  simp only [firstDay, lastDay, dayMs] at held
  omega

theorem weekdayBounds_spec {weekday : UInt8} {now : Instant} {z : Zone} {w : Span}
    (bounds : weekdayBounds weekday now z = some w) :
    weekday.toNat ≤ 6 ∧ w.start.toInt = z.midnight (z.sundayOf now + weekday.toNat) ∧
      w.stop.toInt = z.midnight (z.sundayOf now + weekday.toNat) + dayMs ∧
      representable (z.midnight (z.sundayOf now + weekday.toNat)) = true := by
  simp only [weekdayBounds] at bounds
  split at bounds
  · rename_i held
    simp only [Bool.and_eq_true, decide_eq_true_eq] at held
    obtain ⟨⟨⟨⟨weekdays, _⟩, _⟩, _⟩, shown⟩ := held
    have range := representable_bounds shown
    cases bounds
    refine ⟨UInt8.le_iff_toNat_le.mp weekdays, ?_, ?_, shown⟩
    · exact Int64.toInt_ofInt_of_le (by omega) (by omega)
    · rw [dayMs]
      exact Int64.toInt_ofInt_of_le (by omega) (by omega)
  · contradiction

theorem contains_iff_dayOf {weekday : UInt8} {now : Instant} {z : Zone} {w : Span}
    (bounds : weekdayBounds weekday now z = some w) (t : Instant) :
    w.contains t = true ↔ z.dayOf t.toInt = z.sundayOf now + weekday.toNat := by
  obtain ⟨_, start, stop, _⟩ := weekdayBounds_spec bounds
  rw [Span.contains_iff, Int64.le_iff_toInt_le, Int64.lt_iff_toInt_lt, start, stop, Zone.dayOf_eq_iff]

theorem contains_eq_onDay {weekday : UInt8} {now : Instant} {z : Zone} {w : Span}
    (bounds : weekdayBounds weekday now z = some w) : w.contains = z.onDay (z.sundayOf now + weekday.toNat) := by
  funext t
  rw [Bool.eq_iff_iff, contains_iff_dayOf bounds, Zone.onDay_iff]

theorem weekday_le {weekday : UInt8} {now : Instant} {z : Zone} {w : Span}
    (bounds : weekdayBounds weekday now z = some w) : weekday ≤ 6 :=
  UInt8.le_iff_toNat_le.mpr (weekdayBounds_spec bounds).1

theorem representable_of_bounds {weekday : UInt8} {now : Instant} {z : Zone} {w : Span}
    (bounds : weekdayBounds weekday now z = some w) : representable now.toInt = true := by
  simp only [weekdayBounds] at bounds
  split at bounds
  · rename_i held
    simp only [Bool.and_eq_true, decide_eq_true_eq] at held
    exact held.1.1.1.2
  · contradiction

theorem lt_farFuture {weekday : UInt8} {now : Instant} {z : Zone} {w : Span}
    (bounds : weekdayBounds weekday now z = some w) {t : Instant} (inside : w.contains t = true) : t < farFuture := by
  obtain ⟨_, _, stop, shown⟩ := weekdayBounds_spec bounds
  have range := representable_bounds shown
  have before := Int64.lt_iff_toInt_lt.mp ((Span.contains_iff _ _).mp inside).2
  have far : farFuture.toInt = 4611686018427387903 := rfl
  rw [Int64.lt_iff_toInt_lt, far]
  rw [stop, dayMs] at before
  omega

theorem timeslot_mul_minutesMs (timeslot duration : UInt32) :
    (timeslot.toNat : Int) * minutesMs duration = ((timeslot.toNat * duration.toNat : Nat) : Int) * 60000 := by
  rw [minutesMs, minuteMs]
  push_cast
  exact (Int.mul_assoc _ _ _).symm

theorem slotStart_toInt {weekday : UInt8} {now : Instant} {z : Zone} {w : Span}
    (bounds : weekdayBounds weekday now z = some w) {timeslot : UInt32} (early : timeslot.toNat < minutesPerDay)
    (duration : UInt32) :
    (slotStart w timeslot duration).toInt = w.start.toInt + timeslot.toNat * minutesMs duration := by
  obtain ⟨_, start, _, shown⟩ := weekdayBounds_spec bounds
  have range := representable_bounds shown
  have minutes : timeslot.toNat * duration.toNat ≤ minutesPerDay * 4294967296 :=
    Nat.mul_le_mul (Nat.le_of_lt early) (Nat.le_of_lt duration.toNat_lt)
  rw [minutesPerDay] at minutes
  rw [slotStart, timeslot_mul_minutesMs]
  rw [← start] at range
  exact Int64.toInt_ofInt_of_le (by omega) (by omega)

theorem slotStart_le {weekday : UInt8} {now : Instant} {z : Zone} {w : Span}
    (bounds : weekdayBounds weekday now z = some w) {timeslot : UInt32} (early : timeslot.toNat < minutesPerDay)
    {short long : UInt32} (shorter : short ≤ long) : slotStart w timeslot short ≤ slotStart w timeslot long := by
  have minutes := Nat.mul_le_mul_left timeslot.toNat (UInt32.le_iff_toNat_le.mp shorter)
  rw [Int64.le_iff_toInt_le, slotStart_toInt bounds early, slotStart_toInt bounds early, timeslot_mul_minutesMs,
    timeslot_mul_minutesMs]
  omega

namespace Schedule

theorem validate_eq_ok_iff (s : Schedule) :
    s.validate = .ok () ↔
      s.weekday ≤ 6 ∧ s.duration ≠ 0 ∧ s.capacities.size * s.duration.toNat ≤ minutesPerDay := by
  rw [validate]
  split
  · rename_i h
    have outside : ¬s.weekday ≤ 6 := UInt8.not_le.mpr h
    simp [outside]
  · rename_i h
    split
    · rename_i zero
      simp [zero]
    · rename_i positive
      split
      · rename_i long
        simp only [reduceCtorEq, false_iff]
        omega
      · rename_i fits
        simp only [true_iff]
        exact ⟨UInt8.not_lt.mp h, positive, by omega⟩

theorem lt_timeslots {s : Schedule} {timeslot : UInt32} {capacity : Nat}
    (seats : s.capacityAt timeslot = some capacity) : timeslot.toNat < s.timeslots := by
  rw [capacityAt, Capacities.at?, Option.map_eq_some_iff] at seats
  obtain ⟨digit, found, _⟩ := seats
  exact (List.getElem?_eq_some_iff.mp found).1

theorem lt_minutesPerDay {s : Schedule} {timeslot : UInt32} (valid : s.validate = .ok ())
    (present : timeslot.toNat < s.timeslots) : timeslot.toNat < minutesPerDay := by
  obtain ⟨_, positive, fits⟩ := s.validate_eq_ok_iff.mp valid
  have nonzero : 0 < s.duration.toNat := Nat.pos_of_ne_zero fun zero => positive (UInt32.toNat_inj.mp zero)
  exact Nat.lt_of_lt_of_le present (Nat.le_trans (Nat.le_mul_of_pos_right _ nonzero) fits)

theorem contains_startOf {s : Schedule} {weekday : UInt8} {now : Instant} {z : Zone} {w : Span}
    {timeslot : UInt32} (valid : s.validate = .ok ()) (bounds : weekdayBounds weekday now z = some w)
    (present : timeslot.toNat < s.timeslots) : w.contains (s.startOf w timeslot) = true := by
  obtain ⟨_, start, stop, _⟩ := weekdayBounds_spec bounds
  obtain ⟨_, positive, fits⟩ := s.validate_eq_ok_iff.mp valid
  have value : (s.startOf w timeslot).toInt = w.start.toInt + timeslot.toNat * minutesMs s.duration :=
    slotStart_toInt bounds (lt_minutesPerDay valid present) s.duration
  have ends : (timeslot.toNat + 1) * s.duration.toNat ≤ minutesPerDay :=
    Nat.le_trans (Nat.mul_le_mul_right _ present) fits
  have nonzero : s.duration.toNat ≠ 0 := fun zero => positive (UInt32.toNat_inj.mp zero)
  rw [Nat.add_mul, Nat.one_mul, minutesPerDay] at ends
  rw [timeslot_mul_minutesMs] at value
  rw [Span.contains_iff, Int64.le_iff_toInt_le, Int64.lt_iff_toInt_lt, value, stop, start, dayMs]
  omega

end Schedule

end Bookings
