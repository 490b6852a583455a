import Mathlib.Algebra.Order.Field.Power
import Mathlib.Tactic.FieldSimp
import Mathlib.Tactic.Linarith
import Mathlib.Tactic.NormNum
import Mathlib.Tactic.Positivity
import Mathlib.Tactic.Ring
import Bookings.Number.Binary

namespace Bookings

def Dyadic.size (x : Dyadic) : ℚ := x.significand * 2 ^ x.exponent

theorem zpow_eq_div (b : ℚ) (e : ℤ) : b ^ e = b ^ e.toNat / b ^ (-e).toNat := by
  obtain ⟨n, rfl | rfl⟩ := e.eq_nat_or_neg
  · simp
  · simp

theorem cast_scaled_base {b : ℕ} (base : b ≠ 0) (num den : ℕ) (e : ℤ) :
    ((num * Nat.pow b (-e).toNat : ℕ) : ℚ) / (den * Nat.pow b e.toNat : ℕ) = num / den / (b : ℚ) ^ e := by
  have unit : (b : ℚ) ≠ 0 := mod_cast base
  rw [zpow_eq_div]
  simp only [Nat.pow_eq]
  push_cast
  field_simp

theorem cast_scaled (num den : ℕ) (e : ℤ) :
    ((num * Nat.pow 2 (-e).toNat : ℕ) : ℚ) / (den * Nat.pow 2 e.toNat : ℕ) = num / den / 2 ^ e :=
  cast_scaled_base two_ne_zero num den e

theorem Dyadic.size_eq_div (x : Dyadic) :
    ((x.significand * Nat.pow 2 x.exponent.toNat : ℕ) : ℚ) / (Nat.pow 2 (-x.exponent).toNat : ℕ) = x.size := by
  rw [size, zpow_eq_div]
  simp only [Nat.pow_eq]
  push_cast
  ring

section

variable {num den : ℕ}

theorem floorLog2_spec (some : num ≠ 0) (divides : den ≠ 0) :
    (2 : ℚ) ^ floorLog2 num den ≤ num / den ∧ (num / den : ℚ) < 2 ^ (floorLog2 num den + 1) := by
  have numLeast : (2 : ℚ) ^ num.log2 ≤ num := mod_cast Nat.log2_self_le some
  have numMost : (num : ℚ) < 2 ^ (num.log2 + 1) := mod_cast Nat.lt_log2_self
  have denLeast : (2 : ℚ) ^ den.log2 ≤ den := mod_cast Nat.log2_self_le divides
  have denMost : (den : ℚ) < 2 ^ (den.log2 + 1) := mod_cast Nat.lt_log2_self
  have positive : (0 : ℚ) < den := mod_cast Nat.pos_of_ne_zero divides
  -- The two logarithms give the quotient's up to one.
  have above : (num / den : ℚ) < 2 ^ ((num.log2 : ℤ) - den.log2 + 1) := by
    rw [div_lt_iff₀ positive, sub_add_eq_add_sub, zpow_sub₀ two_ne_zero, zpow_natCast, div_mul_eq_mul_div,
      lt_div_iff₀ (by positivity)]
    calc (num : ℚ) * 2 ^ den.log2 < 2 ^ (num.log2 + 1) * 2 ^ den.log2 := by gcongr
      _ ≤ 2 ^ ((num.log2 : ℤ) + 1) * den := by
        have same : (2 : ℚ) ^ ((num.log2 : ℤ) + 1) = 2 ^ (num.log2 + 1) := mod_cast rfl
        rw [same]
        gcongr
  have below : (2 : ℚ) ^ ((num.log2 : ℤ) - den.log2 - 1) ≤ num / den := by
    rw [le_div_iff₀ positive, sub_sub, zpow_sub₀ two_ne_zero, zpow_natCast, div_mul_eq_mul_div,
      div_le_iff₀ (by positivity)]
    have same : (2 : ℚ) ^ ((den.log2 : ℤ) + 1) = 2 ^ (den.log2 + 1) := mod_cast rfl
    rw [same]
    gcongr
  have test (e : ℤ) : num * Nat.pow 2 (-e).toNat < den * Nat.pow 2 e.toNat ↔ (num / den : ℚ) < 2 ^ e := by
    have scale : (0 : ℚ) < (den * Nat.pow 2 e.toNat : ℕ) := by
      simp only [Nat.pow_eq]
      positivity
    have unit : (0 : ℚ) < 2 ^ e := by positivity
    rw [← div_lt_one₀ unit, ← cast_scaled, div_lt_one₀ scale, Nat.cast_lt]
  unfold floorLog2
  dsimp only
  split
  · rename_i short
    rw [sub_add_cancel]
    exact ⟨below, (test _).mp short⟩
  · rename_i enough
    exact ⟨not_lt.mp fun short => enough ((test _).mpr short), above⟩

theorem floorLog2_eq (some : num ≠ 0) (divides : den ≠ 0) {e : ℤ} (least : (2 : ℚ) ^ e ≤ num / den)
    (most : (num / den : ℚ) < 2 ^ (e + 1)) : floorLog2 num den = e := by
  obtain ⟨low, high⟩ := floorLog2_spec some divides
  have under := (zpow_lt_zpow_iff_right₀ (one_lt_two : (1 : ℚ) < 2)).mp (low.trans_lt most)
  have beyond := (zpow_lt_zpow_iff_right₀ (one_lt_two : (1 : ℚ) < 2)).mp (least.trans_lt high)
  omega

theorem div_le_roundQuotient (num den : ℕ) : num / den ≤ roundQuotient num den := by
  unfold roundQuotient
  dsimp only
  split
  · exact Nat.le_refl _
  · split <;> omega

theorem roundQuotient_le (num den : ℕ) : roundQuotient num den ≤ num / den + 1 := by
  unfold roundQuotient
  dsimp only
  split
  · omega
  · split <;> omega

theorem two_mul_lt_of_roundQuotient (divides : den ≠ 0) {n : ℕ} (even : n % 2 = 0) :
    roundQuotient num den < n ↔ 2 * num + den < 2 * (n * den) := by
  have split := Nat.div_add_mod num den
  have short := Nat.mod_lt num (Nat.pos_of_ne_zero divides)
  rcases Nat.lt_trichotomy (num / den + 1) n with under | same | beyond
  · have room : (num / den + 1 + 1) * den ≤ n * den := Nat.mul_le_mul_right den under
    have expand : (num / den + 1 + 1) * den = den * (num / den) + 2 * den := by ring
    have rounded := roundQuotient_le num den
    constructor <;> intro _ <;> omega
  · have expand : n * den = den * (num / den) + den := by
      rw [← same]
      ring
    unfold roundQuotient
    dsimp only
    split
    · constructor <;> intro _ <;> omega
    · split
      · constructor <;> intro _ <;> omega
      · constructor <;> intro _ <;> omega
  · have room := Nat.mul_le_mul_right den (Nat.lt_add_one_iff.mp beyond)
    have expand : num / den * den = den * (num / den) := Nat.mul_comm _ _
    have rounded := div_le_roundQuotient num den
    constructor <;> intro _ <;> omega

theorem roundQuotient_lt_iff (divides : den ≠ 0) {n : ℕ} (even : n % 2 = 0) :
    roundQuotient num den < n ↔ (num / den : ℚ) < n - 1 / 2 := by
  have positive : (0 : ℚ) < den := mod_cast Nat.pos_of_ne_zero divides
  have cast : 2 * num + den < 2 * (n * den) ↔ (2 * num + den : ℚ) < 2 * (n * den) := mod_cast Iff.rfl
  rw [two_mul_lt_of_roundQuotient divides even, cast, div_lt_iff₀ positive]
  constructor <;> intro _ <;> linarith

theorem roundQuotient_le_of_lt (divides : den ≠ 0) {n : ℕ} (most : (num / den : ℚ) < n) :
    roundQuotient num den ≤ n := by
  have positive : (0 : ℚ) < den := mod_cast Nat.pos_of_ne_zero divides
  rw [div_lt_iff₀ positive] at most
  have whole : num / den < n := Nat.div_lt_of_lt_mul (by rw [Nat.mul_comm]; exact_mod_cast most)
  exact (roundQuotient_le num den).trans whole

theorem le_roundQuotient_of_le (divides : den ≠ 0) {n : ℕ} (least : (n : ℚ) ≤ num / den) :
    n ≤ roundQuotient num den := by
  have positive : (0 : ℚ) < den := mod_cast Nat.pos_of_ne_zero divides
  rw [le_div_iff₀ positive] at least
  have whole : n ≤ num / den := (Nat.le_div_iff_mul_le (Nat.pos_of_ne_zero divides)).mpr (mod_cast least)
  exact whole.trans (div_le_roundQuotient num den)

theorem roundQuotient_of_eq (divides : den ≠ 0) {n : ℕ} (exact : (num : ℚ) / den = n) : roundQuotient num den = n := by
  have positive : (den : ℚ) ≠ 0 := mod_cast divides
  have same : num = n * den := by
    rw [div_eq_iff positive] at exact
    exact_mod_cast exact
  unfold roundQuotient
  rw [same, Nat.mul_div_cancel _ (Nat.pos_of_ne_zero divides), Nat.mul_mod_left, if_pos (Nat.pos_of_ne_zero divides)]

end

namespace BinaryFormat

/-- The significand fills the bits of the fraction and one more, or else the exponent is the least. -/
structure Holds (f : BinaryFormat) (x : Dyadic) : Prop where
  least : f.minExponent ≤ x.exponent
  small : x.significand < 2 ^ (f.fractionBits + 1)
  normal : x.exponent = f.minExponent ∨ 2 ^ f.fractionBits ≤ x.significand

def pattern (f : BinaryFormat) (x : Dyadic) : ℕ :=
  (x.exponent - f.minExponent).toNat * 2 ^ f.fractionBits + x.significand

variable {f : BinaryFormat} {x : Dyadic} {num den : ℕ}

/-- A number that the format holds is rounded to itself, however it is written as a quotient. -/
theorem round_of_size (holds : f.Holds x) (divides : den ≠ 0) (exact : (num : ℚ) / den = x.size) :
    f.round num den = min (f.pattern x) f.infinity := by
  obtain ⟨least, small, normal⟩ := holds
  have positive : (den : ℚ) ≠ 0 := mod_cast divides
  by_cases none : num = 0
  · have zero : x.significand = 0 := by
      rw [none, Nat.cast_zero, zero_div, Dyadic.size] at exact
      have unit : (2 : ℚ) ^ x.exponent ≠ 0 := by positivity
      exact_mod_cast (mul_eq_zero.mp exact.symm).resolve_right unit
    have lowest : x.exponent = f.minExponent := by
      refine normal.resolve_right fun filled => ?_
      rw [zero] at filled
      exact absurd filled (Nat.not_le.mpr (Nat.two_pow_pos _))
    rw [round, if_pos none, pattern, zero, lowest, Int.sub_self, Int.toNat_zero, Nat.zero_mul, Nat.zero_add,
      Nat.zero_min]
  · have some : x.significand ≠ 0 := by
      intro zero
      rw [Dyadic.size, zero, Nat.cast_zero, zero_mul, div_eq_zero_iff] at exact
      exact exact.elim (fun zero => none (mod_cast zero)) positive
    have unit : (2 : ℚ) ^ x.exponent ≠ 0 := by positivity
    have log : floorLog2 num den = x.exponent + x.significand.log2 := by
      have low : (2 : ℚ) ^ x.significand.log2 ≤ x.significand := mod_cast Nat.log2_self_le some
      have high : (x.significand : ℚ) < 2 ^ (x.significand.log2 + 1) := mod_cast Nat.lt_log2_self
      apply floorLog2_eq none divides
      · rw [exact, Dyadic.size, zpow_add₀ two_ne_zero, zpow_natCast, mul_comm]
        gcongr
      · have same : (2 : ℚ) ^ (x.exponent + x.significand.log2 + 1) =
            2 ^ (x.significand.log2 + 1) * 2 ^ x.exponent := by
          rw [add_assoc, zpow_add₀ two_ne_zero, mul_comm]
          exact_mod_cast rfl
        rw [exact, Dyadic.size, same]
        gcongr
    have place : max f.minExponent (floorLog2 num den - f.fractionBits) = x.exponent := by
      have top : x.significand.log2 < f.fractionBits + 1 := (Nat.log2_lt some).mpr small
      rcases normal with lowest | filled
      · omega
      · have reached : f.fractionBits ≤ x.significand.log2 := (Nat.le_log2 some).mpr filled
        omega
    have divides : den * Nat.pow 2 x.exponent.toNat ≠ 0 :=
      Nat.mul_ne_zero divides (Nat.pos_iff_ne_zero.mp (Nat.two_pow_pos _))
    have whole : roundQuotient (num * Nat.pow 2 (-x.exponent).toNat) (den * Nat.pow 2 x.exponent.toNat) =
        x.significand := by
      apply roundQuotient_of_eq divides
      rw [cast_scaled, exact, Dyadic.size, mul_div_cancel_right₀ _ unit]
    rw [round, if_neg none]
    dsimp only
    rw [place, whole, pattern, Nat.pow_eq]

theorem ofDyadic_of_size (holds : f.Holds x) {y : Dyadic} (same : y.size = x.size) :
    f.ofDyadic y = f.signed y.negative (min (f.pattern x) f.infinity) := by
  have divides : Nat.pow 2 (-y.exponent).toNat ≠ 0 := Nat.pos_iff_ne_zero.mp (Nat.two_pow_pos _)
  rw [ofDyadic, round_of_size holds divides (y.size_eq_div.trans same)]

theorem round_le (f : BinaryFormat) (num den : ℕ) : f.round num den ≤ f.infinity := by
  unfold round
  split
  · exact Nat.zero_le _
  · exact Nat.min_le_right _ _

theorem infinity_lt (f : BinaryFormat) : f.infinity < f.signBit := by
  simp only [infinity, signBit, Nat.pow_eq, Nat.pow_add]
  exact (Nat.mul_lt_mul_right (Nat.two_pow_pos _)).mpr (Nat.sub_lt (Nat.two_pow_pos _) Nat.one_pos)

theorem isSome_value? (f : BinaryFormat) (bits : ℕ) :
    (f.value? bits).isSome = decide (bits % f.signBit < f.infinity) := by
  unfold value?
  dsimp only
  split
  · rename_i large
    simp [large]
  · rename_i small
    split <;> simp [Nat.not_le.mp small]

theorem signed_mod {magnitude : ℕ} (small : magnitude < f.signBit) (negative : Bool) :
    f.signed negative magnitude % f.signBit = magnitude := by
  cases negative with
  | false => exact Nat.mod_eq_of_lt small
  | true => rw [signed, if_pos rfl, Nat.add_mod_left, Nat.mod_eq_of_lt small]

theorem le_signed_iff {magnitude : ℕ} (small : magnitude < f.signBit) (negative : Bool) :
    f.signBit ≤ f.signed negative magnitude ↔ negative = true := by
  cases negative with
  | false => simp [signed, small]
  | true => simp [signed]

theorem value?_signed (holds : f.Holds x) (finite : f.pattern x < f.infinity) :
    f.value? (f.signed x.negative (f.pattern x)) = some x := by
  obtain ⟨negative, significand, exponent⟩ := x
  obtain ⟨least, small, normal⟩ := holds
  dsimp only at least small normal
  have bounded := finite.trans f.infinity_lt
  have sign := le_signed_iff bounded negative
  have positive := Nat.two_pow_pos f.fractionBits
  have parts : f.pattern ⟨negative, significand, exponent⟩ =
      2 ^ f.fractionBits * (exponent - f.minExponent).toNat + significand := by rw [pattern, Nat.mul_comm]
  rw [Nat.pow_succ] at small
  unfold value?
  simp only [signed_mod bounded, sign, Bool.decide_eq_true, if_neg (Nat.not_le.mpr finite), Nat.pow_eq]
  rw [parts, Nat.mul_add_div positive, Nat.mul_add_mod]
  by_cases filled : 2 ^ f.fractionBits ≤ significand
  · have whole : significand / 2 ^ f.fractionBits = 1 := Nat.div_eq_of_lt_le (by omega) (by omega)
    have rest : significand % 2 ^ f.fractionBits = significand - 2 ^ f.fractionBits := by
      rw [Nat.mod_eq_sub_mod filled, Nat.mod_eq_of_lt (by omega)]
    rw [whole, rest, if_neg (Nat.succ_ne_zero _)]
    simp only [Option.some.injEq, Dyadic.mk.injEq, true_and]
    omega
  · have lowest := normal.resolve_right filled
    rw [Nat.div_eq_of_lt (Nat.not_le.mp filled), Nat.mod_eq_of_lt (Nat.not_le.mp filled), lowest, Int.sub_self]
    rfl

theorem holds_of_value? {bits : ℕ} (finite : f.value? bits = some x) :
    f.Holds x ∧ f.pattern x < f.infinity ∧ f.pattern x = bits % f.signBit ∧
      x.negative = decide (f.signBit ≤ bits) := by
  have small : bits % f.signBit < f.infinity := by
    have some := f.isSome_value? bits
    rw [finite, Option.isSome_some] at some
    exact of_decide_eq_true some.symm
  simp only [value?, if_neg (Nat.not_le.mpr small), Nat.pow_eq] at finite
  have parts := Nat.div_add_mod (bits % f.signBit) (2 ^ f.fractionBits)
  have short := Nat.mod_lt (bits % f.signBit) (Nat.two_pow_pos f.fractionBits)
  have same : f.Holds x ∧ f.pattern x = bits % f.signBit ∧ x.negative = decide (f.signBit ≤ bits) := by
    split at finite
    · rename_i first
      cases finite
      rw [first, Nat.mul_zero, Nat.zero_add] at parts
      refine ⟨⟨Int.le_refl _, short.trans (Nat.pow_lt_pow_succ Nat.one_lt_two), .inl rfl⟩, ?_, rfl⟩
      rw [pattern, Int.sub_self, Int.toNat_zero, Nat.zero_mul, Nat.zero_add, parts]
    · rename_i later
      cases finite
      generalize bits % f.signBit / 2 ^ f.fractionBits = step at parts later ⊢
      refine ⟨⟨by dsimp only; omega, ?_, .inr (Nat.le_add_right _ _)⟩, ?_, rfl⟩
      · rw [Nat.pow_succ]
        dsimp only
        omega
      · have earlier : (f.minExponent + step - 1 - f.minExponent).toNat = step - 1 := by omega
        have enough := Nat.le_mul_of_pos_right (2 ^ f.fractionBits) (Nat.pos_of_ne_zero later)
        rw [pattern, earlier, Nat.mul_comm, Nat.mul_sub_one]
        dsimp only
        omega
  obtain ⟨holds, own, sign⟩ := same
  exact ⟨holds, own ▸ small, own, sign⟩

end BinaryFormat

end Bookings
