import Bookings.Number.Shortest
import Bookings.Proofs.Number.Rounding

namespace Bookings

def Decimal.size (d : Decimal) : ℚ := d.digits * 10 ^ d.exponent

namespace BinaryFormat

/-- No number of the format is nearer to the size. -/
def Nearest (f : BinaryFormat) (size : ℚ) (x : Dyadic) : Prop :=
  f.Holds x ∧ ∀ y, f.Holds y → |size - x.size| ≤ |size - y.size|

/-- The least significand of an exponent: the numbers below it lie half as far apart as those above. -/
def Edge (f : BinaryFormat) (x : Dyadic) : Prop := x.significand = 2 ^ f.fractionBits ∧ x.exponent ≠ f.minExponent

variable {f : BinaryFormat} {x y : Dyadic} {size : ℚ}

theorem succ_scaled_le {k n : ℕ} {unit : ℚ} (positive : 0 < unit) (less : k < n) : k * unit + unit ≤ n * unit := by
  have step : (k + 1 : ℚ) ≤ n := mod_cast less
  calc k * unit + unit = (k + 1) * unit := by ring
    _ ≤ n * unit := mul_le_mul_of_nonneg_right step positive.le

theorem apart_of_coarse (coarse : x.exponent ≤ y.exponent) :
    y.size = x.size ∨ x.size + 2 ^ x.exponent ≤ y.size ∨ y.size ≤ x.size - 2 ^ x.exponent := by
  have unit : (0 : ℚ) < 2 ^ x.exponent := by positivity
  -- Both are multiples of the unit of the first.
  obtain ⟨steps, apart⟩ := Int.eq_ofNat_of_zero_le (sub_nonneg.mpr coarse)
  have above : y.exponent = steps + x.exponent := by omega
  have scaled : y.size = (y.significand * 2 ^ steps : ℕ) * 2 ^ x.exponent := by
    rw [Dyadic.size, above, zpow_add₀ two_ne_zero, zpow_natCast]
    push_cast
    ring
  rw [scaled, Dyadic.size]
  rcases Nat.lt_trichotomy (y.significand * 2 ^ steps) x.significand with under | same | beyond
  · exact .inr (.inr (le_sub_iff_add_le.mpr (succ_scaled_le unit under)))
  · exact .inl (by rw [same])
  · exact .inr (.inl (succ_scaled_le unit beyond))

theorem Holds.le_of_fine (other : f.Holds y) (fine : y.exponent < x.exponent) :
    y.size ≤ 2 ^ f.fractionBits * 2 ^ x.exponent - 2 ^ x.exponent / 2 := by
  have half : (2 : ℚ) ^ y.exponent ≤ 2 ^ x.exponent / 2 := by
    rw [div_eq_mul_inv, ← zpow_sub_one₀ two_ne_zero]
    exact zpow_le_zpow_right₀ one_le_two (by omega)
  have most : (y.significand + 1 : ℚ) ≤ 2 * 2 ^ f.fractionBits := by
    rw [← pow_succ']
    exact_mod_cast other.small
  have least : (0 : ℚ) ≤ y.significand := by positivity
  calc y.size ≤ (2 * 2 ^ f.fractionBits - 1) * (2 ^ x.exponent / 2) :=
        mul_le_mul (by linarith) half (by positivity) (by linarith)
    _ = 2 ^ f.fractionBits * 2 ^ x.exponent - 2 ^ x.exponent / 2 := by ring

theorem Holds.apart (holds : f.Holds x) (other : f.Holds y) :
    y.size = x.size ∨ x.size + 2 ^ x.exponent ≤ y.size ∨ y.size ≤ x.size - 2 ^ x.exponent ∨
      f.Edge x ∧ y.size ≤ x.size - 2 ^ x.exponent / 2 := by
  rcases le_or_gt x.exponent y.exponent with coarse | fine
  · exact (apart_of_coarse coarse).imp_right (Or.imp_right .inl)
  · -- The other is below all numbers with a full significand and the exponent of the first.
    have unit : (0 : ℚ) < 2 ^ x.exponent := by positivity
    have lower : x.exponent ≠ f.minExponent := (other.least.trans_lt fine).ne'
    have below := other.le_of_fine fine
    rcases (holds.normal.resolve_left lower).eq_or_lt with edge | more
    · have same : x.size = 2 ^ f.fractionBits * 2 ^ x.exponent := by
        rw [Dyadic.size, ← edge]
        push_cast
        rfl
      exact .inr (.inr (.inr ⟨⟨edge.symm, lower⟩, same ▸ below⟩))
    · have room : 2 ^ f.fractionBits * 2 ^ x.exponent + 2 ^ x.exponent ≤ x.size := by
        have step := succ_scaled_le unit more
        push_cast at step
        exact step
      exact .inr (.inr (.inl (by linarith)))

theorem Holds.nearest (holds : f.Holds x) (above : size ≤ x.size + 2 ^ x.exponent / 2)
    (below : x.size - 2 ^ x.exponent / 2 ≤ size) (edge : f.Edge x → x.size - 2 ^ x.exponent / 4 ≤ size) :
    f.Nearest size x := by
  have unit : (0 : ℚ) < 2 ^ x.exponent := by positivity
  refine ⟨holds, fun y other => ?_⟩
  rcases holds.apart other with same | beyond | under | ⟨narrow, under⟩
  · rw [same]
  · rw [abs_sub_comm size y.size, abs_of_nonneg (by linarith : 0 ≤ y.size - size), abs_le]
    constructor <;> linarith
  · rw [abs_of_nonneg (by linarith : 0 ≤ size - y.size), abs_le]
    constructor <;> linarith
  · have close := edge narrow
    rw [abs_of_nonneg (by linarith : 0 ≤ size - y.size), abs_le]
    constructor <;> linarith

end BinaryFormat

theorem roundQuotient_near (num : ℕ) {den : ℕ} (divides : den ≠ 0) :
    2 * num ≤ 2 * (roundQuotient num den * den) + den ∧ 2 * (roundQuotient num den * den) ≤ 2 * num + den := by
  have parts := Nat.div_add_mod num den
  have short := Nat.mod_lt num (Nat.pos_of_ne_zero divides)
  have floor : num / den * den = den * (num / den) := Nat.mul_comm _ _
  have ceiling : (num / den + 1) * den = den * (num / den) + den := by ring
  unfold roundQuotient
  dsimp only
  split
  · omega
  · split
    · omega
    · rcases Nat.mod_two_eq_zero_or_one (num / den) with even | odd
      · rw [even, Nat.add_zero]
        omega
      · rw [odd]
        omega

theorem abs_roundQuotient_sub_le (num : ℕ) {den : ℕ} (divides : den ≠ 0) :
    |(roundQuotient num den : ℚ) - num / den| ≤ 1 / 2 := by
  have positive : (0 : ℚ) < den := mod_cast Nat.pos_of_ne_zero divides
  obtain ⟨low, high⟩ := roundQuotient_near num divides
  have lower : (2 * num : ℚ) ≤ 2 * (roundQuotient num den * den) + den := mod_cast low
  have upper : (2 * (roundQuotient num den * den) : ℚ) ≤ 2 * num + den := mod_cast high
  have least : (num : ℚ) / den ≤ roundQuotient num den + 1 / 2 := by
    rw [div_le_iff₀ positive]
    linarith
  have most : (roundQuotient num den : ℚ) - 1 / 2 ≤ num / den := by
    rw [le_div_iff₀ positive]
    linarith
  rw [abs_le]
  constructor <;> linarith

namespace Shortest

variable {i : Interval} {n : ℕ} {e : ℤ}

def Interval.Covers (i : Interval) (size : ℚ) : Prop := (i.low / i.den : ℚ) ≤ size ∧ size ≤ i.high / i.den

theorem scaled_le_iff {a den n : ℕ} (divides : den ≠ 0) (e : ℤ) :
    a * Nat.pow 10 (-e).toNat ≤ n * Nat.pow 10 e.toNat * den ↔ (a / den : ℚ) ≤ n * 10 ^ e := by
  have positive : (0 : ℚ) < den := mod_cast Nat.pos_of_ne_zero divides
  have scale : (0 : ℚ) < 10 ^ (-e).toNat := by positivity
  rw [zpow_eq_div, div_le_iff₀ positive, ← mul_div_assoc, div_mul_eq_mul_div, le_div_iff₀ scale]
  simp only [Nat.pow_eq]
  exact_mod_cast Iff.rfl

theorem le_scaled_iff {a den n : ℕ} (divides : den ≠ 0) (e : ℤ) :
    n * Nat.pow 10 e.toNat * den ≤ a * Nat.pow 10 (-e).toNat ↔ (n * 10 ^ e : ℚ) ≤ a / den := by
  have positive : (0 : ℚ) < den := mod_cast Nat.pos_of_ne_zero divides
  have scale : (0 : ℚ) < 10 ^ (-e).toNat := by positivity
  rw [zpow_eq_div, le_div_iff₀ positive, ← mul_div_assoc, div_mul_eq_mul_div, div_le_iff₀ scale]
  simp only [Nat.pow_eq]
  exact_mod_cast Iff.rfl

theorem covers_of_holds (divides : i.den ≠ 0) (holds : i.holds n e = true) : i.Covers (n * 10 ^ e) := by
  unfold Interval.holds at holds
  rw [Interval.Covers, ← scaled_le_iff divides, ← le_scaled_iff divides]
  dsimp only at holds
  split at holds
  · rw [Bool.and_eq_true, decide_eq_true_eq, decide_eq_true_eq] at holds
    exact holds
  · rw [Bool.and_eq_true, decide_eq_true_eq, decide_eq_true_eq] at holds
    exact ⟨holds.1.le, holds.2.le⟩

theorem holds_of_lt (divides : i.den ≠ 0) (low : (i.low / i.den : ℚ) < n * 10 ^ e)
    (high : (n * 10 ^ e : ℚ) < i.high / i.den) : i.holds n e = true := by
  have above := not_le.mp fun under => low.not_ge ((le_scaled_iff divides e).mp under)
  have below := not_le.mp fun beyond => high.not_ge ((scaled_le_iff divides e).mp beyond)
  unfold Interval.holds
  dsimp only
  split
  · rw [Bool.and_eq_true, decide_eq_true_eq, decide_eq_true_eq]
    exact ⟨above.le, below.le⟩
  · rw [Bool.and_eq_true, decide_eq_true_eq, decide_eq_true_eq]
    exact ⟨above, below⟩

theorem covers_of_onGrid? (divides : i.den ≠ 0) (found : i.onGrid? e = some n) : i.Covers (n * 10 ^ e) := by
  unfold Interval.onGrid? at found
  dsimp only at found
  repeat' split at found
  case isFalse.isFalse.isFalse => cases found
  all_goals
    cases found
    exact covers_of_holds divides ‹_›

theorem exists_onGrid? (divides : i.den ≠ 0) (low : (i.low / i.den : ℚ) < i.value / i.den - 10 ^ e / 2)
    (high : (i.value / i.den : ℚ) + 10 ^ e / 2 < i.high / i.den) : ∃ n, i.onGrid? e = some n := by
  have unit : (0 : ℚ) < 10 ^ e := by positivity
  have grid : i.den * Nat.pow 10 e.toNat ≠ 0 :=
    Nat.mul_ne_zero divides (Nat.pos_iff_ne_zero.mp (Nat.pow_pos (by decide)))
  have near := abs_roundQuotient_sub_le (i.value * Nat.pow 10 (-e).toNat) grid
  rw [cast_scaled_base (by decide), abs_le] at near
  push_cast at near
  have scaled : (i.value / i.den / 10 ^ e : ℚ) * 10 ^ e = i.value / i.den := div_mul_cancel₀ _ unit.ne'
  unfold Interval.onGrid?
  dsimp only
  generalize roundQuotient _ _ = n at near
  have nearest : i.holds n e = true := by
    apply holds_of_lt divides
    · nlinarith
    · nlinarith
  rw [if_pos nearest]
  exact ⟨n, rfl⟩

theorem covers_search (divides : i.den ≠ 0) {tries : ℕ}
    (low : (i.low / i.den : ℚ) < i.value / i.den - 10 ^ (e - tries) / 2)
    (high : (i.value / i.den : ℚ) + 10 ^ (e - tries) / 2 < i.high / i.den) :
    i.Covers (i.search (tries + 1) e).size := by
  induction tries generalizing e with
  | zero =>
    rw [Nat.cast_zero, sub_zero] at low high
    obtain ⟨n, found⟩ := exists_onGrid? divides low high
    rw [Interval.search, found]
    exact covers_of_onGrid? divides found
  | succ tries ih =>
    rw [Interval.search]
    cases found : i.onGrid? e with
    | some n => exact covers_of_onGrid? divides found
    | none =>
      have shift : e - (tries + 1 : ℕ) = e - 1 - tries := by
        push_cast
        ring
      rw [shift] at low high
      exact ih low high

theorem grid_small (k : ℕ) (bound : k < 2046) :
    let q : ℤ := k - 1074
    let e : ℤ := (53 + q) * 30103 / 100000 - 18
    2 * Nat.pow 10 e.toNat * Nat.pow 2 (-q).toNat < Nat.pow 2 q.toNat * Nat.pow 10 (-e).toNat := by
  revert k
  decide +kernel

theorem quarters (n : ℕ) (q : ℤ) :
    ((n * Nat.pow 2 q.toNat : ℕ) : ℚ) / (4 * Nat.pow 2 (-q).toNat : ℕ) = n / 4 * 2 ^ q := by
  rw [zpow_eq_div]
  simp only [Nat.pow_eq]
  push_cast
  field_simp

open BinaryFormat

theorem lastGrid_small {x : Dyadic} (holds : double.Holds x) (some : x.significand ≠ 0) (bounded : x.exponent < 972) :
    (10 : ℚ) ^ (startExponent x.significand x.exponent - 19) < 2 ^ x.exponent / 2 := by
  have least : -1074 ≤ x.exponent := holds.least
  have top : x.significand.log2 < 53 := (Nat.log2_lt some).mpr holds.small
  have last : startExponent x.significand x.exponent - 19 ≤ (53 + x.exponent) * 30103 / 100000 - 18 := by
    have order : (x.significand.log2 + 1 + x.exponent) * 30103 / 100000 ≤ (53 + x.exponent) * 30103 / 100000 :=
      Int.ediv_le_ediv (by decide) (by omega)
    rw [startExponent]
    omega
  have small := grid_small (x.exponent + 1074).toNat (by omega)
  have own : ((x.exponent + 1074).toNat : ℤ) - 1074 = x.exponent := by omega
  dsimp only at small
  rw [own] at small
  generalize (53 + x.exponent) * 30103 / 100000 - 18 = e at last small
  have size : (2 : ℚ) * 10 ^ e < 2 ^ x.exponent := by
    rw [zpow_eq_div 10, zpow_eq_div 2, ← mul_div_assoc, div_lt_div_iff₀ (by positivity) (by positivity)]
    simp only [Nat.pow_eq] at small
    exact_mod_cast small
  have order : (10 : ℚ) ^ (startExponent x.significand x.exponent - 19) ≤ 10 ^ e :=
    zpow_le_zpow_right₀ (by norm_num) last
  linarith

theorem interval_spec {x : Dyadic} (some : x.significand ≠ 0) :
    let i := interval x.significand x.exponent
    i.den ≠ 0 ∧ (i.value / i.den : ℚ) = x.size ∧ (i.high / i.den : ℚ) = x.size + 2 ^ x.exponent / 2 ∧
      x.size - 2 ^ x.exponent / 2 ≤ (i.low / i.den : ℚ) ∧ (i.low / i.den : ℚ) ≤ x.size - 2 ^ x.exponent / 4 ∧
        (double.Edge x → (i.low / i.den : ℚ) = x.size - 2 ^ x.exponent / 4) := by
  have unit : (0 : ℚ) < 2 ^ x.exponent := by positivity
  have low {gap : ℕ} (room : gap ≤ 4 * x.significand) :
      (((4 * x.significand - gap) * Nat.pow 2 x.exponent.toNat : ℕ) : ℚ) / (4 * Nat.pow 2 (-x.exponent).toNat : ℕ) =
        x.size - gap * 2 ^ x.exponent / 4 := by
    rw [quarters, Nat.cast_sub room, Dyadic.size]
    push_cast
    ring
  unfold interval
  dsimp only
  refine ⟨Nat.mul_ne_zero (by decide) (Nat.pos_iff_ne_zero.mp (Nat.two_pow_pos _)), ?_, ?_, ?_⟩
  · rw [quarters, Dyadic.size]
    push_cast
    ring
  · rw [quarters, Dyadic.size]
    push_cast
    ring
  · split
    · rw [low (by omega)]
      push_cast
      exact ⟨by linarith, by linarith, fun _ => by ring⟩
    · rename_i wide
      rw [low (by omega)]
      push_cast
      refine ⟨by linarith, by linarith, fun edge => absurd ?_ wide⟩
      rw [Bool.and_eq_true, beq_iff_eq, bne_iff_ne]
      exact edge

/-- The shortest decimal of a 64-bit number lies so near to it that no other such number is nearer. -/
theorem nearest_decimal {x : Dyadic} (holds : double.Holds x) (some : x.significand ≠ 0) (bounded : x.exponent < 972) :
    double.Nearest (decimal x.significand x.exponent).size x := by
  obtain ⟨divides, value, high, lowest, low, edge⟩ := interval_spec some
  have fine := lastGrid_small holds some bounded
  have unit : (0 : ℚ) < 2 ^ x.exponent := by positivity
  have covered : (interval x.significand x.exponent).Covers (decimal x.significand x.exponent).size := by
    refine @covers_search _ (startExponent x.significand x.exponent) divides 19 ?_ ?_
    · rw [value]
      exact low.trans_lt (by push_cast; linarith)
    · rw [value, high]
      push_cast
      linarith
  obtain ⟨least, most⟩ := covered
  refine holds.nearest (high ▸ most) (lowest.trans least) fun narrow => ?_
  exact (edge narrow).ge.trans least

end Shortest

end Bookings
