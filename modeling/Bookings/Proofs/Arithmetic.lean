import Bookings.Desk.Booking
import Bookings.Store.Decision
import Bookings.Proofs.Calendar

namespace Bookings

namespace Checked

def int64 (n : Int) : Option Int := if -9223372036854775808 ≤ n ∧ n < 9223372036854775808 then some n else none

def int32 (n : Int) : Option Int := if -2147483648 ≤ n ∧ n < 2147483648 then some n else none

def word64 (n : Nat) : Option Nat := if n < 18446744073709551616 then some n else none

def validate (s : Schedule) : Option (Except ScheduleError Unit) :=
  if s.weekday > 6 then some (.error (.weekdayOutOfRange s.weekday))
  else if s.duration = 0 then some (.error .zeroDuration)
  else do
    let minutes ← word64 (s.capacities.size * s.duration.toNat)
    if minutes > minutesPerDay then return .error (.overflow s.capacities.size s.duration)
    else return .ok ()

def minutesMs (minutes : UInt32) : Option Int := int64 (minutes.toNat * minuteMs)

def slotStart (w : Span) (timeslot duration : UInt32) : Option Instant := do
  let minutes ← int64 (timeslot.toNat * duration.toNat)
  let offset ← int64 (minutes * minuteMs)
  let start ← int64 (w.start.toInt + offset)
  return Int64.ofInt start

def exclusiveFrom (now : Instant) (duration : UInt32) : Option Instant := do
  let length ← minutesMs duration
  let start ← int64 (now.toInt - length)
  return Int64.ofInt start

def fitsDay (w : Span) (t : Instant) (duration : UInt32) : Option Bool := do
  let length ← minutesMs duration
  let stop ← int64 (t.toInt + length)
  return w.contains t && stop ≤ w.stop.toInt

def weekdayBounds (weekday : UInt8) (now : Instant) (zone : Zone) : Option (Option Span) :=
  let today := zone.dayOf now.toInt
  if !(weekday ≤ 6 && representable now.toInt && dated today) then some none
  else do
    let diff ← int64 (weekday.toNat - weekdayOf today)
    if !(dated (today + diff) && representable (zone.midnight (today + diff))) then return none
    else
      let start ← int64 (zone.midnight (today + diff))
      let stop ← int64 (start + dayMs)
      return some ⟨Int64.ofInt start, Int64.ofInt stop⟩

def openSeats (capacity : Nat) (rows : List Slot) : Option Int := do
  let claimed ← int32 (rows.countP Slot.isClaimed)
  int32 (capacity - claimed)

theorem int64_eq_some {n : Int} (low : -9223372036854775808 ≤ n) (high : n < 9223372036854775808) :
    int64 n = some n := if_pos ⟨low, high⟩

theorem int32_eq_some {n : Int} (low : -2147483648 ≤ n) (high : n < 2147483648) : int32 n = some n :=
  if_pos ⟨low, high⟩

theorem validate_eq_some {s : Schedule} (few : s.capacities.size < 2 ^ 32) : validate s = some s.validate := by
  have product : s.capacities.size * s.duration.toNat < 18446744073709551616 :=
    Nat.mul_lt_mul'' few s.duration.toNat_lt
  unfold validate Schedule.validate
  split
  · rfl
  · split
    · rfl
    · rw [word64, if_pos product, Option.bind_eq_bind, Option.bind_some]
      split <;> rfl

theorem minutesMs_eq_some (minutes : UInt32) : minutesMs minutes = some (Bookings.minutesMs minutes) := by
  have size := minutes.toNat_lt
  exact int64_eq_some (by rw [minuteMs]; omega) (by rw [minuteMs]; omega)

variable {weekday : UInt8} {now : Instant} {z : Zone} {w : Span} {timeslot : UInt32}

theorem slotStart_eq_some (bounds : Bookings.weekdayBounds weekday now z = some w)
    (early : timeslot.toNat < minutesPerDay) (duration : UInt32) :
    slotStart w timeslot duration = some (Bookings.slotStart w timeslot duration) := by
  obtain ⟨_, start, _, shown⟩ := weekdayBounds_spec bounds
  have range := representable_bounds shown
  rw [← start] at range
  have minutes : timeslot.toNat * duration.toNat ≤ minutesPerDay * 4294967296 :=
    Nat.mul_le_mul (Nat.le_of_lt early) (Nat.le_of_lt duration.toNat_lt)
  rw [minutesPerDay] at minutes
  rw [slotStart, Bookings.slotStart, timeslot_mul_minutesMs, ← Int.natCast_mul, minuteMs]
  rw [int64_eq_some (by omega) (by omega), Option.bind_eq_bind, Option.bind_some]
  rw [int64_eq_some (by omega) (by omega), Option.bind_some]
  rw [int64_eq_some (by omega) (by omega), Option.bind_some]
  rfl

theorem exclusiveFrom_eq_some {d : Desk} (shown : representable d.now.toInt = true) (schedule : Schedule) :
    exclusiveFrom d.now schedule.duration = some (d.exclusiveFrom schedule) := by
  have range := representable_bounds shown
  have size := schedule.duration.toNat_lt
  have length : Bookings.minutesMs schedule.duration = (schedule.duration.toNat : Int) * 60000 := rfl
  rw [exclusiveFrom, minutesMs_eq_some, Option.bind_eq_bind, Option.bind_some]
  rw [int64_eq_some (by omega) (by omega), Option.bind_some]
  rfl

theorem fitsDay_eq_some (bounds : Bookings.weekdayBounds weekday now z = some w)
    (early : timeslot.toNat < minutesPerDay) (duration : UInt32) :
    fitsDay w (Bookings.slotStart w timeslot duration) duration =
      some (Desk.fitsDay w (Bookings.slotStart w timeslot duration) duration) := by
  obtain ⟨_, start, _, shown⟩ := weekdayBounds_spec bounds
  have range := representable_bounds shown
  rw [← start] at range
  have value := slotStart_toInt bounds early duration
  have size := duration.toNat_lt
  have minutes : timeslot.toNat * duration.toNat ≤ minutesPerDay * 4294967296 :=
    Nat.mul_le_mul (Nat.le_of_lt early) (Nat.le_of_lt size)
  rw [minutesPerDay] at minutes
  rw [timeslot_mul_minutesMs] at value
  have length : Bookings.minutesMs duration = (duration.toNat : Int) * 60000 := rfl
  rw [fitsDay, minutesMs_eq_some, Option.bind_eq_bind, Option.bind_some]
  rw [int64_eq_some (by omega) (by omega), Option.bind_some]
  rfl

theorem weekdayBounds_eq_some (weekday : UInt8) (now : Instant) (zone : Zone) :
    weekdayBounds weekday now zone = some (Bookings.weekdayBounds weekday now zone) := by
  unfold weekdayBounds Bookings.weekdayBounds
  dsimp only
  by_cases shown : (weekday ≤ 6 && representable now.toInt && dated (zone.dayOf now.toInt)) = true
  · have range := weekdayOf_bounds (zone.dayOf now.toInt)
    have size := weekday.toNat_lt
    have moved : zone.dayOf now.toInt + (weekday.toNat - weekdayOf (zone.dayOf now.toInt)) =
        zone.dayOf now.toInt - weekdayOf (zone.dayOf now.toInt) + weekday.toNat := by omega
    rw [shown, Bool.not_true, if_neg Bool.false_ne_true, int64_eq_some (by omega) (by omega), Option.bind_eq_bind,
      Option.bind_some, moved, Bool.true_and]
    generalize zone.dayOf now.toInt - weekdayOf (zone.dayOf now.toInt) + weekday.toNat = day
    by_cases held : (dated day && representable (zone.midnight day)) = true
    · have start := representable_bounds (Bool.and_eq_true_iff.mp held).2
      rw [held, Bool.not_true, if_neg Bool.false_ne_true, if_pos rfl, int64_eq_some (by omega) (by omega), dayMs,
        Option.bind_some, int64_eq_some (by omega) (by omega)]
      rfl
    · rw [Bool.not_eq_true] at held
      rw [held]
      rfl
  · rw [Bool.not_eq_true] at shown
    rw [shown]
    rfl

theorem openSeats_eq_some {capacity : Nat} {rows : List Slot} (digit : capacity ≤ 255)
    (few : rows.length ≤ maxSlotsPerQueue) : openSeats capacity rows = some (Bookings.openSeats capacity rows) := by
  have count : rows.countP Slot.isClaimed ≤ maxSlotsPerQueue := Nat.le_trans List.countP_le_length few
  rw [maxSlotsPerQueue] at count
  rw [openSeats, int32_eq_some (by omega) (by omega), Option.bind_eq_bind, Option.bind_some]
  exact int32_eq_some (by omega) (by omega)

end Checked

end Bookings
