import Bookings.Proofs.Week
import Mathlib.Algebra.Group.Nat.Defs

namespace Bookings

/-- Times for which the calendar holds the whole week, whatever the zone: 8·10¹⁵ ms to either side of the epoch. -/
def nearEpoch (t : Instant) : Prop := t.toInt.natAbs ≤ 8 * 10 ^ 15

instance (t : Instant) : Decidable (nearEpoch t) := inferInstanceAs (Decidable (_ ≤ _))

namespace Zone

/-- The spans are the seven days, from Sunday on, of the week of local time that holds `now`. -/
structure IsWeek (z : Zone) (now : Instant) (day : UInt8 → Span) : Prop where
  bounds : ∀ d ≤ 6, weekdayBounds d now z = some (day d)
  lasts : ∀ d ≤ 6, (day d).stop.toInt - (day d).start.toInt = 86400000
  midnight : ∀ d ≤ 6, ((day d).start.toInt + z.seconds * 1000) % 86400000 = 0
  weekday : ∀ d ≤ 6, currentWeekday (day d).start z = d
  next : ∀ d < 6, (day (d + 1)).start = (day d).stop
  today : currentWeekday now z ≤ 6 ∧ ∀ d ≤ 6, (day d).contains now = true ↔ d = currentWeekday now z
  shared : ∀ t, nearEpoch t → (∃ d ≤ 6, (day d).contains t = true) → ∀ d, weekdayBounds d t z = weekdayBounds d now z

def span (z : Zone) (day : Int) : Span := ⟨Int64.ofInt (z.midnight day), Int64.ofInt (z.midnight day + dayMs)⟩

theorem dayOf_eq_sundayOf_add (z : Zone) (t : Instant) :
    z.dayOf t.toInt = z.sundayOf t + weekdayOf (z.dayOf t.toInt) := by
  rw [sundayOf]
  omega

theorem weekdayOf_sundayOf_add (z : Zone) (now : Instant) {d : UInt8} (weekday : d ≤ 6) :
    weekdayOf (z.sundayOf now + d.toNat) = d.toNat := by
  have small : d.toNat ≤ 6 := UInt8.le_iff_toNat_le.mp weekday
  simp only [sundayOf, weekdayOf]
  omega

theorem sundayOf_eq_of_dayOf {z : Zone} {now t : Instant} {d : UInt8} (weekday : d ≤ 6)
    (day : z.dayOf t.toInt = z.sundayOf now + d.toNat) : z.sundayOf t = z.sundayOf now := by
  have shown := z.weekdayOf_sundayOf_add now weekday
  rw [← day] at shown
  rw [sundayOf, shown, day]
  omega

end Zone

theorem weekdayOf_bounds (day : Int) : 0 ≤ weekdayOf day ∧ weekdayOf day ≤ 6 := by
  rw [weekdayOf]
  omega

theorem dated_iff (day : Int) : dated day = true ↔ -96465292 ≤ day ∧ day ≤ 95026236 := by
  rw [dated, Bool.and_eq_true, decide_eq_true_eq, decide_eq_true_eq, firstDay, lastDay]

theorem weekdayBounds_eq_span (z : Zone) {now : Instant} (near : nearEpoch now) {d : UInt8} (weekday : d ≤ 6) :
    weekdayBounds d now z = some (z.span (z.sundayOf now + d.toNat)) := by
  have small : d.toNat ≤ 6 := UInt8.le_iff_toNat_le.mp weekday
  have range := weekdayOf_bounds (z.dayOf now.toInt)
  have west := z.west
  have east := z.east
  rw [nearEpoch] at near
  have days : -92592594 ≤ z.dayOf now.toInt ∧ z.dayOf now.toInt ≤ 92592594 := by
    simp only [Zone.dayOf, Zone.ahead, dayMs]
    omega
  have shown : representable now.toInt = true := by
    rw [representable, dated_iff, dayMs]
    omega
  have today : dated (z.dayOf now.toInt) = true := by
    rw [dated_iff]
    omega
  have day : dated (z.sundayOf now + d.toNat) = true := by
    rw [dated_iff, Zone.sundayOf]
    omega
  have start : representable (z.midnight (z.sundayOf now + d.toNat)) = true := by
    rw [representable, dated_iff, Zone.sundayOf, Zone.midnight, Zone.ahead, dayMs]
    omega
  rw [Zone.sundayOf] at day start ⊢
  simp only [weekdayBounds, weekday, shown, today, day, start, decide_true, Bool.and_self, if_true, Zone.span]

theorem currentWeekday_toNat {now : Instant} {z : Zone} (shown : representable now.toInt = true) :
    ((currentWeekday now z).toNat : Int) = weekdayOf (z.dayOf now.toInt) := by
  have bounds := weekdayOf_bounds (z.dayOf now.toInt)
  have small : (weekdayOf (z.dayOf now.toInt)).toNat < 256 := by omega
  rw [currentWeekday, if_pos shown, UInt8.toNat_ofNat_of_lt' small]
  omega

theorem eq_currentWeekday_iff {now : Instant} {z : Zone} (shown : representable now.toInt = true) (d : UInt8) :
    d = currentWeekday now z ↔ z.dayOf now.toInt = z.sundayOf now + d.toNat := by
  have today := currentWeekday_toNat (z := z) shown
  have split := z.dayOf_eq_sundayOf_add now
  rw [← UInt8.toNat_inj]
  omega

/-- The bounds of the weekdays are the days of one week, on either side of the epoch and whatever the zone. -/
theorem exists_isWeek (z : Zone) {now : Instant} (near : nearEpoch now) : ∃ day, z.IsWeek now day := by
  have bounds {t : Instant} (near : nearEpoch t) {d : UInt8} (weekday : d ≤ 6) := weekdayBounds_eq_span z near weekday
  have shown := representable_of_bounds (bounds near (d := 0) (by decide))
  refine ⟨fun d => z.span (z.sundayOf now + d.toNat), ?_⟩
  constructor
  case bounds => exact fun d weekday => bounds near weekday
  case lasts =>
    intro d weekday
    obtain ⟨_, start, stop, _⟩ := weekdayBounds_spec (bounds near weekday)
    rw [start, stop, dayMs]
    omega
  case midnight =>
    intro d weekday
    obtain ⟨_, start, _, _⟩ := weekdayBounds_spec (bounds near weekday)
    rw [start, Zone.midnight, Zone.ahead, dayMs]
    omega
  case weekday =>
    intro d weekday
    obtain ⟨_, start, _, held⟩ := weekdayBounds_spec (bounds near weekday)
    rw [← start] at held
    have day := (z.dayOf_eq_iff _ _).mpr ⟨Int.le_of_eq start.symm, by rw [start, dayMs]; omega⟩
    refine ((eq_currentWeekday_iff held d).mpr ?_).symm
    rw [Zone.sundayOf_eq_of_dayOf weekday day, day]
  case next =>
    intro d early
    have small : d.toNat < 6 := UInt8.lt_iff_toNat_lt.mp early
    have follows : (d + 1).toNat = d.toNat + 1 := by
      rw [UInt8.toNat_add, UInt8.toNat_one]
      exact Nat.mod_eq_of_lt (by omega)
    have midnight : z.midnight (z.sundayOf now + (d + 1).toNat) = z.midnight (z.sundayOf now + d.toNat) + dayMs := by
      rw [Zone.midnight, Zone.midnight, follows, dayMs]
      omega
    rw [Zone.span, Zone.span, midnight]
  case today =>
    have today := currentWeekday_toNat (z := z) shown
    have range := weekdayOf_bounds (z.dayOf now.toInt)
    have last : (6 : UInt8).toNat = 6 := rfl
    refine ⟨UInt8.le_iff_toNat_le.mpr (by omega), fun d weekday => ?_⟩
    rw [contains_iff_dayOf (bounds near weekday), eq_currentWeekday_iff shown]
  case shared =>
    intro t also found other
    obtain ⟨d, weekday, inside⟩ := found
    have week := Zone.sundayOf_eq_of_dayOf weekday ((contains_iff_dayOf (bounds near weekday) t).mp inside)
    by_cases valid : other ≤ 6
    · rw [bounds also valid, bounds near valid, week]
    · simp [weekdayBounds, valid]

theorem exists_isWeek_of_last : nearEpoch (-1) ∧ ∃ day, (Zone.mk (-18000)).IsWeek (-1) day :=
  ⟨by decide, exists_isWeek _ (by decide)⟩

end Bookings
