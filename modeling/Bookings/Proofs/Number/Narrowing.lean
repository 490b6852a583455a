import Bookings.Number.Literal
import Bookings.Proofs.Number.Rounding

namespace Bookings

namespace BinaryFormat

variable {f : BinaryFormat} {num den : ℕ}

/-- What a positive quotient is rounded to: a significand of at most twice the width, behind as many steps of the
exponent; it fills the width unless the exponent is the least. -/
theorem exists_round (some : num ≠ 0) (divides : den ≠ 0) : ∃ step significand : ℕ,
    f.round num den = min (step * 2 ^ f.fractionBits + significand) f.infinity ∧
      (num / den : ℚ) < 2 * 2 ^ f.fractionBits * 2 ^ (f.minExponent + step) ∧
      significand ≤ 2 * 2 ^ f.fractionBits ∧
      (significand < 2 * 2 ^ f.fractionBits ↔
        (num / den : ℚ) < (2 * 2 ^ f.fractionBits - 1 / 2) * 2 ^ (f.minExponent + step)) ∧
      (0 < step → 2 ^ f.fractionBits ≤ significand ∧
        2 ^ f.fractionBits * 2 ^ (f.minExponent + step) ≤ (num / den : ℚ)) := by
  obtain ⟨low, high⟩ := floorLog2_spec some divides
  obtain ⟨step, place⟩ :
      ∃ step : ℕ, max f.minExponent (floorLog2 num den - f.fractionBits) = f.minExponent + step :=
    ⟨(max f.minExponent (floorLog2 num den - f.fractionBits) - f.minExponent).toNat, by omega⟩
  have count : (f.minExponent + step - f.minExponent).toNat = step := by omega
  have unit : (0 : ℚ) < 2 ^ (f.minExponent + step) := by positivity
  have scaled := cast_scaled num den (f.minExponent + step)
  have divides : den * Nat.pow 2 (f.minExponent + step).toNat ≠ 0 :=
    Nat.mul_ne_zero divides (Nat.pos_iff_ne_zero.mp (Nat.two_pow_pos _))
  rw [round, if_neg some]
  dsimp only
  rw [place, count, Nat.pow_eq]
  generalize num * Nat.pow 2 (-(f.minExponent + step)).toNat = a at scaled ⊢
  generalize den * Nat.pow 2 (f.minExponent + step).toNat = b at scaled divides ⊢
  have below : (num / den : ℚ) < 2 * 2 ^ f.fractionBits * 2 ^ (f.minExponent + step) := by
    rw [← pow_succ', ← zpow_natCast, ← zpow_add₀ two_ne_zero]
    exact high.trans_le (zpow_le_zpow_right₀ one_le_two (by push_cast; omega))
  refine ⟨step, roundQuotient a b, rfl, below, ?_, ?_, fun later => ?_⟩
  · refine roundQuotient_le_of_lt divides ?_
    push_cast
    rwa [scaled, div_lt_iff₀ unit]
  · rw [roundQuotient_lt_iff divides (Nat.mul_mod_right _ _), scaled, div_lt_iff₀ unit]
    push_cast
    rfl
  · have above : 2 ^ f.fractionBits * 2 ^ (f.minExponent + step) ≤ (num / den : ℚ) := by
      rw [← zpow_natCast, ← zpow_add₀ two_ne_zero]
      exact (zpow_le_zpow_right₀ one_le_two (by omega)).trans low
    refine ⟨le_roundQuotient_of_le divides ?_, above⟩
    push_cast
    rwa [scaled, le_div_iff₀ unit]

def maxExponent (f : BinaryFormat) : ℤ := f.minExponent + (2 ^ f.exponentBits - 3 : ℕ)

theorem round_lt_infinity_iff (ample : 2 ≤ f.exponentBits) (divides : den ≠ 0) :
    f.round num den < f.infinity ↔ (num / den : ℚ) < (2 * 2 ^ f.fractionBits - 1 / 2) * 2 ^ f.maxExponent := by
  have four : 2 ^ 2 ≤ 2 ^ f.exponentBits := Nat.pow_le_pow_right Nat.two_pos ample
  have bound : f.infinity = (2 ^ f.exponentBits - 3 + 2) * 2 ^ f.fractionBits := by
    rw [infinity, Nat.pow_eq, Nat.pow_eq]
    congr 1
    omega
  have last : f.maxExponent = f.minExponent + (2 ^ f.exponentBits - 3 : ℕ) := rfl
  have filled : (1 : ℚ) ≤ 2 ^ f.fractionBits := one_le_pow₀ one_le_two
  have wide : 0 < 2 ^ f.fractionBits := Nat.two_pow_pos _
  generalize 2 ^ f.exponentBits - 3 = top at bound last
  by_cases none : num = 0
  · rw [round, if_pos none, none, Nat.cast_zero, zero_div, bound]
    exact iff_of_true (Nat.mul_pos (Nat.succ_pos _) wide) (mul_pos (by linarith) (by positivity))
  · obtain ⟨step, significand, rounded, below, small, edge, normal⟩ := exists_round (f := f) none divides
    rw [rounded, min_lt_iff, or_iff_left (lt_irrefl _), bound, last, Nat.add_mul]
    have twice {low high : ℕ} (apart : low < high) :
        2 * (2 : ℚ) ^ (f.minExponent + low) ≤ 2 ^ (f.minExponent + high) := by
      rw [← zpow_one_add₀ two_ne_zero]
      exact zpow_le_zpow_right₀ one_le_two (by omega)
    rcases Nat.lt_trichotomy step top with under | rfl | beyond
    · have room := Nat.mul_le_mul_right (2 ^ f.fractionBits) (Nat.succ_le_iff.mpr under)
      rw [Nat.succ_mul] at room
      refine iff_of_true (by omega) (below.trans_le ?_)
      calc 2 * 2 ^ f.fractionBits * (2 : ℚ) ^ (f.minExponent + step)
          = 2 ^ f.fractionBits * (2 * 2 ^ (f.minExponent + step)) := by ring
        _ ≤ 2 ^ f.fractionBits * 2 ^ (f.minExponent + top) := by gcongr; exact twice under
        _ ≤ (2 * 2 ^ f.fractionBits - 1 / 2) * 2 ^ (f.minExponent + top) := by gcongr; linarith
    · rw [Nat.add_lt_add_iff_left, edge]
    · obtain ⟨large, above⟩ := normal (Nat.zero_lt_of_lt beyond)
      have room := Nat.mul_le_mul_right (2 ^ f.fractionBits) (Nat.succ_le_iff.mpr beyond)
      rw [Nat.succ_mul] at room
      refine iff_of_false (by omega) (not_lt.mpr (above.trans' ?_))
      calc (2 * 2 ^ f.fractionBits - 1 / 2) * (2 : ℚ) ^ (f.minExponent + top)
          ≤ 2 * 2 ^ f.fractionBits * 2 ^ (f.minExponent + top) := by gcongr; linarith
        _ = 2 ^ f.fractionBits * (2 * 2 ^ (f.minExponent + top)) := by ring
        _ ≤ 2 ^ f.fractionBits * 2 ^ (f.minExponent + step) := by gcongr; exact twice beyond

theorem single_round_lt_infinity_iff (divides : den ≠ 0) :
    single.round num den < single.infinity ↔ (num / den : ℚ) < 2 ^ 128 - 2 ^ 103 := by
  have bound : (2 * 2 ^ single.fractionBits - 1 / 2 : ℚ) * 2 ^ single.maxExponent = 2 ^ 128 - 2 ^ 103 := by
    have top : single.maxExponent = 104 := by decide
    have bits : single.fractionBits = 23 := rfl
    rw [top, bits]
    norm_num
  rw [round_lt_infinity_iff (by decide) divides, bound]

end BinaryFormat

namespace Single

open BinaryFormat

theorem isFinite_ofNat {magnitude : ℕ} (bounded : magnitude ≤ single.infinity) (negative : Bool) :
    isFinite ⟨UInt32.ofNat (single.signed negative magnitude)⟩ = decide (magnitude < single.infinity) := by
  have small := bounded.trans_lt single.infinity_lt
  have word : single.signed negative magnitude < 4294967296 := by
    have sign : single.signBit = 2147483648 := rfl
    rw [sign] at small
    rw [signed, sign]
    split <;> omega
  rw [isFinite, value?, UInt32.toNat_ofNat_of_lt' word, isSome_value?, signed_mod small]

theorem isFinite_ofDouble_iff (x : Double) :
    (ofDouble x).isFinite = true ↔ ∃ v, x.value? = some v ∧ v.size < 2 ^ 128 - 2 ^ 103 := by
  unfold ofDouble
  cases found : x.value? with
  | none => simp [isFinite_ofNat (Nat.le_refl _)]
  | some v =>
    have divides : Nat.pow 2 (-v.exponent).toNat ≠ 0 := Nat.pos_iff_ne_zero.mp (Nat.two_pow_pos _)
    dsimp only
    rw [ofDyadic, isFinite_ofNat (round_le _ _ _), decide_eq_true_eq, single_round_lt_infinity_iff divides,
      v.size_eq_div]
    simp

theorem isFinite_ofInt_iff (n : ℤ) : (ofInt n).isFinite = true ↔ (n.natAbs : ℚ) < 2 ^ 128 - 2 ^ 103 := by
  rw [ofInt, isFinite_ofNat (round_le _ _ _), decide_eq_true_eq, single_round_lt_infinity_iff Nat.one_ne_zero,
    Nat.cast_one, div_one]

theorem exists_wide {x : Dyadic} (holds : single.Holds x) (finite : single.pattern x < single.infinity) :
    ∃ wide : Dyadic, double.Holds wide ∧ double.pattern wide < double.infinity ∧ wide.negative = x.negative ∧
      wide.size = x.size := by
  obtain ⟨negative, significand, exponent⟩ := x
  obtain ⟨least, small, -⟩ := holds
  obtain ⟨lowest, lower⟩ : single.minExponent = -149 ∧ double.minExponent = -1074 := by decide
  obtain ⟨limit, higher⟩ : single.infinity = 255 * 2 ^ 23 ∧ double.infinity = 2047 * 2 ^ 52 := by decide
  have narrow : single.fractionBits = 23 := rfl
  have fraction : double.fractionBits = 52 := rfl
  simp only [pattern, lowest, limit, narrow] at least small finite
  by_cases none : significand = 0
  · refine ⟨⟨negative, 0, double.minExponent⟩, ⟨Int.le_refl _, Nat.two_pow_pos _, .inl rfl⟩, ?_, rfl, ?_⟩
    · rw [pattern, Int.sub_self, higher, Int.toNat_zero, Nat.zero_mul]
      norm_num
    · simp [Dyadic.size, none]
  · have low := Nat.log2_self_le none
    have high := Nat.lt_log2_self (n := significand)
    have top : significand.log2 < 24 := (Nat.log2_lt none).mpr small
    obtain ⟨shift, enough⟩ : ∃ shift, significand.log2 + shift = 52 := ⟨52 - significand.log2, by omega⟩
    have filled : 2 ^ 52 ≤ significand * 2 ^ shift := by
      rw [← enough, Nat.pow_add]
      exact Nat.mul_le_mul_right _ low
    have bounded : significand * 2 ^ shift < 2 ^ 53 := by
      have whole : 2 ^ 53 = 2 ^ (significand.log2 + 1) * 2 ^ shift := by
        rw [← Nat.pow_add]
        congr 1
        omega
      rw [whole]
      exact (Nat.mul_lt_mul_right (Nat.two_pow_pos _)).mpr high
    refine ⟨⟨negative, significand * 2 ^ shift, exponent - shift⟩, ⟨?_, ?_, .inr ?_⟩, ?_, rfl, ?_⟩
    · rw [lower]
      dsimp only
      omega
    · exact bounded
    · exact filled
    · rw [pattern, lower, higher, fraction]
      have steps : (exponent - shift - -1074).toNat ≤ 2000 := by omega
      calc (exponent - shift - -1074).toNat * 2 ^ 52 + significand * 2 ^ shift
          < 2000 * 2 ^ 52 + 2 ^ 53 := Nat.add_lt_add_of_le_of_lt (Nat.mul_le_mul_right _ steps) bounded
        _ < 2047 * 2 ^ 52 := by norm_num
    · simp only [Dyadic.size]
      rw [zpow_sub₀ two_ne_zero]
      push_cast
      field_simp
      simp

theorem exists_toDouble? {x : Single} (finite : x.isFinite = true) :
    ∃ d, x.toDouble? = some d ∧ d.isFinite = true ∧ ofDouble d = x := by
  obtain ⟨v, found⟩ := Option.isSome_iff_exists.mp finite
  obtain ⟨holds, bounded, own, sign⟩ := holds_of_value? found
  obtain ⟨wide, kept, fits, same, size⟩ := exists_wide holds bounded
  have word : double.signed wide.negative (double.pattern wide) < 18446744073709551616 := by
    have limits : double.infinity = 9218868437227405312 ∧ double.signBit = 9223372036854775808 := by decide
    rw [limits.1] at fits
    rw [signed, limits.2]
    split <;> omega
  have widened : double.ofDyadic v = double.signed wide.negative (double.pattern wide) := by
    rw [ofDyadic_of_size kept size.symm, Nat.min_eq_left fits.le, same]
  have read : (Double.mk (UInt64.ofNat (double.ofDyadic v))).value? = some wide := by
    rw [Double.value?, UInt64.toNat_ofNat_of_lt' (widened ▸ word), widened, value?_signed kept fits]
  have narrowed : single.ofDyadic wide = x.bits.toNat := by
    rw [ofDyadic_of_size holds size, Nat.min_eq_left bounded.le, same, own, sign, signed]
    have limit : single.signBit = 2147483648 := rfl
    have bits := x.bits.toNat_lt
    rw [limit]
    split <;> rename_i negative
    · have negative := of_decide_eq_true negative
      omega
    · have positive := of_decide_eq_false (Bool.eq_false_iff.mpr negative)
      omega
  refine ⟨_, by rw [toDouble?, found, Option.map_some], by rw [Double.isFinite, read, Option.isSome_some], ?_⟩
  rw [ofDouble, read]
  dsimp only
  rw [narrowed, UInt32.ofNat_toNat]

end Single

namespace Numeral

def size? : Numeral → Option ℚ
  | .int n => some n.natAbs
  | .float x => x.value?.map Dyadic.size

/-- The numeral lies below the middle of the gap behind the largest numbers of 32 bits. -/
def Narrow (n : Numeral) : Prop := ∃ size ∈ n.size?, size < 2 ^ 128 - 2 ^ 103

theorem isFinite_toSingle_iff (n : Numeral) : n.toSingle.isFinite = true ↔ n.Narrow := by
  cases n with
  | int n =>
    rw [toSingle, Single.isFinite_ofInt_iff]
    simp [Narrow, size?]
  | float x =>
    rw [toSingle, Single.isFinite_ofDouble_iff]
    simp [Narrow, size?]

end Numeral

end Bookings
