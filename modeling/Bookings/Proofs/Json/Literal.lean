import Bookings.Proofs.Json.Reading
import Bookings.Proofs.Number.Shortest

namespace Bookings

open Json

/-- The number without its sign that the digits and the exponent give. -/
def NumberLiteral.size (l : NumberLiteral) : ℚ :=
  ofDigits (l.whole ++ l.fraction.getD []) * 10 ^ (l.exponent.getD 0 - (l.fraction.getD []).length)

namespace Json

def values (cs : List Char) : List Nat := cs.map fun c => c.toNat - 48

theorem ofDigits_append (ds es : List Nat) : ofDigits (ds ++ es) = ofDigits ds * 10 ^ es.length + ofDigits es := by
  induction es using List.reverseRecOn with
  | nil => simp [ofDigits]
  | append_singleton es e ih =>
    have last (fs : List Nat) : ofDigits (fs ++ [e]) = ofDigits fs * 10 + e := by
      rw [ofDigits, List.foldl_append]
      rfl
    rw [← List.append_assoc, last, last, ih, List.length_append, List.length_singleton, Nat.pow_succ]
    ring

theorem values_append (cs ds : List Char) : values (cs ++ ds) = values cs ++ values ds := List.map_append

theorem length_values (cs : List Char) : (values cs).length = cs.length := List.length_map _

theorem ofDigits_zeros (n : Nat) : ofDigits (values (DecimalLayout.zeros n)) = 0 := by
  induction n with
  | zero => rfl
  | succ n ih =>
    have first : values (DecimalLayout.zeros (n + 1)) = [0] ++ values (DecimalLayout.zeros n) := rfl
    have zero : ofDigits [0] = 0 := rfl
    rw [first, ofDigits_append, ih, zero, Nat.zero_mul]

theorem ofDigits_natChars (n : Nat) : ofDigits (values (natChars n)) = n := ofDigits_decimal n

structure Leading (cs : List Char) : Prop where
  digits : ∀ c ∈ cs, c.isDigit = true
  first : ∃ d ds, cs = d :: ds ∧ (d.toNat - 48 ≠ 0 ∨ ds = [])

theorem leading_natChars {n : Nat} (positive : n ≠ 0) : ∃ c cs, natChars n = c :: cs ∧ c.toNat - 48 ≠ 0 := by
  obtain ⟨d, ds, digits⟩ := decimal_eq_cons (Nat.pos_of_ne_zero positive)
  rw [decimal] at digits
  obtain ⟨c, cs, shown, first, -⟩ := List.map_eq_cons_iff.mp digits
  exact ⟨c, cs, shown, first ▸ Nat.succ_ne_zero d⟩

theorem readWhole?_append {cs rest : List Char} (leading : Leading cs)
    (stops : ∀ read, readDigits read rest = (read.reverse, rest)) :
    readWhole? (cs ++ rest) = some (values cs, rest) := by
  obtain ⟨c, ds, rfl, nonzero⟩ := leading.first
  have read := readDigits_append leading.digits stops []
  rw [List.reverse_nil, List.nil_append, List.map_cons] at read
  rw [readWhole?, read, values, List.map_cons]
  generalize c.toNat - 48 = d at nonzero
  cases d with
  | succ d => rfl
  | zero =>
    obtain rfl : ds = [] := nonzero.resolve_left (absurd rfl)
    rfl

theorem readDigits_all {cs : List Char} (digits : ∀ c ∈ cs, c.isDigit = true) : readDigits [] cs = (values cs, []) := by
  have read := readDigits_append digits Stops.nil.readDigits []
  rwa [List.append_nil, List.reverse_nil, List.nil_append] at read

theorem readMagnitude?_point {whole fraction : List Char} (leading : Leading whole)
    (digits : ∀ c ∈ fraction, c.isDigit = true) (some : fraction ≠ []) (negative : Bool) :
    readMagnitude? negative (whole ++ '.' :: fraction) =
      .some (⟨negative, values whole, .some (values fraction), none⟩, []) := by
  have point : readFraction? ('.' :: fraction) = .some (.some (values fraction), []) := by
    obtain ⟨c, cs, rfl⟩ := List.exists_cons_of_ne_nil some
    rw [readFraction?, readDigits_all digits]
    rfl
  rw [readMagnitude?, readWhole?_append leading fun _ => rfl]
  simp [point, readExponent?]

theorem readExponent?_natChars (power : Int) :
    readExponent? ('e' :: (if power < 0 then '-' else '+') :: natChars power.natAbs) = .some (.some power, []) := by
  have some : values (natChars power.natAbs) ≠ [] := fun none => Nat.toDigits_ne_nil (List.map_eq_nil_iff.mp none)
  obtain ⟨d, ds, shown⟩ := List.exists_cons_of_ne_nil some
  have number := ofDigits_natChars power.natAbs
  have read := readDigits_all fun c => isDigit_of_mem_natChars (c := c) (n := power.natAbs)
  rw [shown] at number read
  rw [readExponent?, readPower?]
  split_ifs with negative
  · have value : -(ofDigits (d :: ds) : Int) = power := by omega
    simp [readSign, read, value]
  · have value : (ofDigits (d :: ds) : Int) = power := by omega
    simp [readSign, read, value]

theorem readMagnitude?_scientific {c : Char} {cs : List Char} (digits : ∀ a ∈ c :: cs, a.isDigit = true)
    (negative : Bool) (exponent : Int) :
    readMagnitude? negative (DecimalLayout.scientific (c :: cs) exponent) =
      some (⟨negative, values [c], if cs = [] then none else some (values cs), some (cs.length + exponent)⟩, []) := by
  obtain ⟨first, others⟩ := List.forall_mem_cons.mp digits
  have leading : Leading [c] := ⟨List.forall_mem_singleton.mpr first, c, [], rfl, .inr rfl⟩
  have power : ((c :: cs).length : Int) + exponent - 1 = cs.length + exponent := by
    rw [List.length_cons]
    omega
  have tail := readExponent?_natChars (cs.length + exponent)
  unfold DecimalLayout.scientific
  dsimp only
  rw [power, ← natChars]
  generalize (if (cs.length : Int) + exponent < 0 then '-' else '+') ::
    natChars (cs.length + exponent).natAbs = rest at tail ⊢
  generalize (cs.length : Int) + exponent = total at tail ⊢
  have stops : ∀ read, readDigits read ('e' :: rest) = (read.reverse, 'e' :: rest) := fun _ => rfl
  cases cs with
  | nil =>
    have whole := readWhole?_append leading stops
    have point : readFraction? ('e' :: rest) = some (none, 'e' :: rest) := rfl
    rw [List.singleton_append] at whole
    simp [readMagnitude?, whole, point, tail]
  | cons a cs =>
    have whole : readWhole? ([c] ++ '.' :: a :: (cs ++ 'e' :: rest)) =
        some (values [c], '.' :: a :: (cs ++ 'e' :: rest)) :=
      readWhole?_append leading fun _ => rfl
    have point : readFraction? ('.' :: a :: (cs ++ 'e' :: rest)) = some (some (values (a :: cs)), 'e' :: rest) := by
      have read := readDigits_append others stops []
      rw [List.reverse_nil, List.nil_append, ← values, List.cons_append] at read
      rw [readFraction?, read]
      rfl
    rw [List.singleton_append] at whole
    simp [readMagnitude?, whole, point, tail]

end Json

theorem NumberLiteral.size_eq {whole fraction : List Char} (negative : Bool) (exponent : Option Int) :
    NumberLiteral.size ⟨negative, values whole, some (values fraction), exponent⟩ =
      ofDigits (values (whole ++ fraction)) * 10 ^ (exponent.getD 0 - fraction.length) := by
  rw [size, Option.getD_some, values_append, length_values]

namespace DecimalLayout

theorem isDigit_of_mem_zeros {n : Nat} {c : Char} (member : c ∈ zeros n) : c.isDigit = true := by
  rw [List.eq_of_mem_replicate member]
  rfl

theorem ofDigits_append_zeros (cs : List Char) (n : Nat) :
    ofDigits (values (cs ++ zeros n)) = ofDigits (values cs) * 10 ^ n := by
  rw [values_append, ofDigits_append, ofDigits_zeros, length_values, zeros, List.length_replicate, Nat.add_zero]

theorem ofDigits_zeros_append (n : Nat) (cs : List Char) : ofDigits (values (zeros n ++ cs)) = ofDigits (values cs) := by
  rw [values_append, ofDigits_append, ofDigits_zeros, Nat.zero_mul, Nat.zero_add]

theorem exists_point {whole fraction : List Char} (leading : Leading whole)
    (digits : ∀ c ∈ fraction, c.isDigit = true) (some : fraction ≠ []) (negative : Bool) :
    ∃ l, readMagnitude? negative (whole ++ '.' :: fraction) = .some (l, []) ∧ l.negative = negative ∧
      l.size = ofDigits (values (whole ++ fraction)) / 10 ^ fraction.length := by
  refine ⟨_, readMagnitude?_point leading digits some negative, rfl, ?_⟩
  rw [NumberLiteral.size_eq, Option.getD_none, zero_sub, zpow_neg, zpow_natCast, div_eq_mul_inv]

theorem exists_plain {digits : List Char} (each : ∀ c ∈ digits, c.isDigit = true) {c : Char} {cs : List Char}
    (shown : digits = c :: cs) (nonzero : c.toNat - 48 ≠ 0) (exponent : Int) (negative : Bool) :
    ∃ l, readMagnitude? negative (plain digits exponent) = some (l, []) ∧ l.negative = negative ∧
      l.size = ofDigits (values digits) * 10 ^ exponent := by
  have nought : ∀ a ∈ ['0'], a.isDigit = true := List.forall_mem_singleton.mpr rfl
  unfold plain
  dsimp only
  split
  · rename_i whole
    have leading : Leading (digits ++ zeros exponent.toNat) :=
      ⟨List.forall_mem_append.mpr ⟨each, fun _ => isDigit_of_mem_zeros⟩, c, cs ++ zeros exponent.toNat,
        by rw [shown, List.cons_append], .inl nonzero⟩
    obtain ⟨l, read, sign, size⟩ := exists_point leading nought (List.cons_ne_nil _ _) negative
    have padded : digits ++ zeros exponent.toNat ++ ['0'] = digits ++ zeros (exponent.toNat + 1) := by
      rw [List.append_assoc, zeros, zeros, List.replicate_succ']
    have power : (10 : ℚ) ^ exponent.toNat = 10 ^ exponent := by
      rw [← zpow_natCast, Int.toNat_of_nonneg whole]
    refine ⟨l, read, sign, ?_⟩
    rw [size, padded, ofDigits_append_zeros, List.length_singleton, pow_one, ← power]
    push_cast
    ring
  split
  · rename_i fractional inside
    generalize places : (digits.length + exponent).toNat = n
    have leading : Leading (digits.take n) := by
      obtain ⟨count, rfl⟩ : ∃ count, n = count + 1 := ⟨n - 1, by omega⟩
      refine ⟨fun a member => each a (List.mem_of_mem_take member), c, cs.take count, ?_, .inl nonzero⟩
      rw [shown, List.take_succ_cons]
    have some : digits.drop n ≠ [] := by
      rw [ne_eq, List.drop_eq_nil_iff]
      omega
    obtain ⟨l, read, sign, size⟩ :=
      exists_point leading (fun a member => each a (List.mem_of_mem_drop member)) some negative
    have power : -exponent = (digits.drop n).length := by
      rw [List.length_drop]
      omega
    refine ⟨l, read, sign, ?_⟩
    rw [size, List.take_append_drop, ← zpow_natCast, ← power, zpow_neg, div_inv_eq_mul]
  · rename_i fractional outside
    have leading : Leading ['0'] := ⟨nought, '0', [], rfl, .inr rfl⟩
    generalize places : (-(digits.length + exponent)).toNat = n
    have some : zeros n ++ digits ≠ [] := by
      rw [shown]
      exact List.append_ne_nil_of_right_ne_nil _ (List.cons_ne_nil _ _)
    obtain ⟨l, read, sign, size⟩ :=
      exists_point leading (List.forall_mem_append.mpr ⟨fun _ => isDigit_of_mem_zeros, each⟩) some negative
    have padded : ['0'] ++ (zeros n ++ digits) = zeros (n + 1) ++ digits := rfl
    have power : -exponent = (zeros n ++ digits).length := by
      rw [List.length_append, zeros, List.length_replicate]
      omega
    refine ⟨l, read, sign, ?_⟩
    rw [size, padded, ofDigits_zeros_append, ← zpow_natCast, ← power, zpow_neg, div_inv_eq_mul]

theorem exists_readMagnitude? (layout : DecimalLayout) {d : Decimal} (positive : d.digits ≠ 0) (negative : Bool) :
    ∃ l, readMagnitude? negative (layout.chars d) = some (l, []) ∧ l.negative = negative ∧ l.size = d.size := by
  have digits := fun c => isDigit_of_mem_natChars (c := c) (n := d.digits)
  have number := ofDigits_natChars d.digits
  obtain ⟨c, cs, shown, nonzero⟩ := leading_natChars positive
  unfold chars
  dsimp only
  rw [← natChars]
  split
  · obtain ⟨l, read, sign, size⟩ := exists_plain digits shown nonzero d.exponent negative
    rw [number] at size
    exact ⟨l, read, sign, size⟩
  · rw [shown] at digits number ⊢
    refine ⟨_, readMagnitude?_scientific digits negative d.exponent, rfl, ?_⟩
    cases cs with
    | nil =>
      rw [NumberLiteral.size, if_pos rfl, Option.getD_none, List.append_nil, number]
      simp [Decimal.size]
    | cons a cs =>
      rw [if_neg (List.cons_ne_nil a cs), NumberLiteral.size_eq, List.singleton_append, number]
      simp [Decimal.size]

end DecimalLayout

namespace BinaryFormat

variable {f : BinaryFormat} {x : Dyadic} {size : ℚ}

theorem Nearest.ne_zero (nearest : f.Nearest size x) (some : x.significand ≠ 0) : size ≠ 0 := by
  rintro rfl
  have zero : f.Holds ⟨false, 0, f.minExponent⟩ := ⟨Int.le_refl _, Nat.two_pow_pos _, .inl rfl⟩
  have least := nearest.2 _ zero
  have positive : 0 < x.size := mul_pos (mod_cast Nat.pos_of_ne_zero some) (by positivity)
  have none : Dyadic.size ⟨false, 0, f.minExponent⟩ = 0 := by rw [Dyadic.size, Nat.cast_zero, zero_mul]
  rw [none, sub_zero, abs_zero, zero_sub, abs_neg, abs_of_pos positive] at least
  exact absurd positive (not_lt.mpr least)

theorem exponent_lt_of_finite (holds : double.Holds x) (finite : double.pattern x < double.infinity) :
    x.exponent < 972 := by
  obtain ⟨least, small, normal⟩ := holds
  have lowest : double.minExponent = -1074 := by decide
  have limit : double.infinity = 2047 * 2 ^ 52 := by decide
  have fraction : double.fractionBits = 52 := rfl
  rw [pattern, limit, lowest, fraction] at finite
  rw [lowest, fraction] at normal
  omega

end BinaryFormat

/-- What is shown of a finite number is a literal that it is nearest to. -/
theorem Double.exists_literal {x : Double} {v : Dyadic} (found : x.value? = some v) :
    ∃ cs l, x.chars? = some cs ∧ readLiteral? cs = some (l, []) ∧ l.negative = v.negative ∧
      BinaryFormat.double.Nearest l.size v := by
  obtain ⟨holds, finite, -⟩ := BinaryFormat.holds_of_value? found
  have magnitude (negative : Bool) : ∃ l,
      readMagnitude? negative (if v.significand = 0 then ['0', '.', '0']
        else DecimalLayout.standard.chars (Shortest.decimal v.significand v.exponent)) = some (l, []) ∧
        l.negative = negative ∧ BinaryFormat.double.Nearest l.size v := by
    split
    · rename_i zero
      have none : NumberLiteral.size ⟨negative, [0], .some [0], .none⟩ = 0 := by simp [NumberLiteral.size, ofDigits]
      refine ⟨⟨negative, [0], .some [0], .none⟩, rfl, rfl, holds, fun y _ => ?_⟩
      rw [none, Dyadic.size, zero, Nat.cast_zero, zero_mul, sub_zero, abs_zero]
      exact abs_nonneg _
    · rename_i some
      have nearest := Shortest.nearest_decimal holds some (BinaryFormat.exponent_lt_of_finite holds finite)
      have positive : (Shortest.decimal v.significand v.exponent).digits ≠ 0 := by
        intro none
        refine nearest.ne_zero some ?_
        rw [Decimal.size, none, Nat.cast_zero, zero_mul]
      obtain ⟨l, read, sign, size⟩ := DecimalLayout.standard.exists_readMagnitude? positive negative
      exact ⟨l, read, sign, size ▸ nearest⟩
  obtain ⟨l, read, sign, nearest⟩ := magnitude v.negative
  refine ⟨_, l, by rw [chars?, found]; rfl, ?_, sign, nearest⟩
  dsimp only
  cases negative : v.negative with
  | true =>
    rw [negative] at read
    exact read
  | false =>
    rw [negative] at read
    exact readLiteral?_of_magnitude read

end Bookings
