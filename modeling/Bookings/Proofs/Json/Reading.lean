import Bookings.Json.Reader
import Bookings.Json.Text
import Mathlib.Data.Nat.Digits.Defs

namespace Bookings.Json

inductive Stops : List Char → Prop where
  | nil : Stops []
  | comma (rest : List Char) : Stops (',' :: rest)
  | bracket (rest : List Char) : Stops (']' :: rest)
  | brace (rest : List Char) : Stops ('\x7d' :: rest)

/-- The values that are read back from their texts where `depth` more brackets may be opened: no fractions,
and integers that fit 64 bits with or without sign. -/
inductive Legible : (depth : Nat) → Json → Prop where
  | null {depth : Nat} : Legible depth .null
  | bool {depth : Nat} (b : Bool) : Legible depth (.bool b)
  | int {depth : Nat} {n : Int} (least : -0x8000000000000000 ≤ n) (most : n < 0x10000000000000000) :
      Legible depth (.int n)
  | str {depth : Nat} (s : String) : Legible depth (.str s)
  | arr {depth : Nat} {items : List Json} (each : ∀ v ∈ items, Legible depth v) : Legible (depth + 1) (.arr items)
  | obj {depth : Nat} {members : List (String × Json)} (each : ∀ m ∈ members, Legible depth m.2) :
      Legible (depth + 1) (.obj members)

theorem skipSpace_cons {c : Char} (visible : isSpace c = false) (cs : List Char) : skipSpace (c :: cs) = c :: cs := by
  rw [skipSpace, List.dropWhile_cons_of_neg (by simp [visible])]

def decimal (n : Nat) : List Nat := (natChars n).map fun c => c.toNat - 48

theorem digit?_of_isDigit {c : Char} (digit : c.isDigit = true) : digit? c = some (c.toNat - 48) := by
  rw [Char.isDigit, Bool.and_eq_true, decide_eq_true_eq, decide_eq_true_eq] at digit
  have low : 48 ≤ c.toNat := UInt32.le_iff_toNat_le.mp digit.1
  have high : c.toNat ≤ 57 := UInt32.le_iff_toNat_le.mp digit.2
  simp [digit?, low, high]

theorem isDigit_of_mem_natChars {n : Nat} {c : Char} (member : c ∈ natChars n) : c.isDigit = true :=
  Nat.isDigit_of_mem_toDigits (by decide) (by decide) member

theorem Stops.readDigits {rest : List Char} (stops : Stops rest) (read : List Nat) :
    readDigits read rest = (read.reverse, rest) := by
  cases stops <;> rfl

theorem readDigits_append {cs rest : List Char} (digits : ∀ c ∈ cs, c.isDigit = true)
    (stops : ∀ read, readDigits read rest = (read.reverse, rest)) (read : List Nat) :
    readDigits read (cs ++ rest) = (read.reverse ++ cs.map (fun c => c.toNat - 48), rest) := by
  induction cs generalizing read with
  | nil => rw [List.nil_append, List.map_nil, List.append_nil, stops]
  | cons c cs ih =>
    rw [List.cons_append, readDigits, digit?_of_isDigit (digits c List.mem_cons_self)]
    dsimp only
    rw [ih fun c member => digits c (List.mem_cons_of_mem _ member), List.reverse_cons, List.append_assoc,
      List.singleton_append, List.map_cons]

theorem ofDigits_decimal (n : Nat) : ofDigits (decimal n) = n := by
  have value := @Nat.ofDigitChars_ten_toDigits n
  rw [Nat.ofDigitChars_eq_foldl] at value
  simp only [Nat.mul_comm 10] at value
  rw [ofDigits, decimal, List.foldl_map]
  exact value

theorem digitChar_value : ∀ n < 10, n.digitChar.toNat - 48 = n := by decide

theorem decimal_of_lt {n : Nat} (low : n < 10) : decimal n = [n] := by
  rw [decimal, natChars, Nat.toDigits_of_lt_base low, List.map_singleton, digitChar_value n low]

theorem decimal_of_le {n : Nat} (high : 10 ≤ n) : decimal n = decimal (n / 10) ++ [n % 10] := by
  rw [decimal, natChars, Nat.toDigits_of_base_le (by decide) high, List.map_append, List.map_singleton,
    digitChar_value _ (Nat.mod_lt n (by decide)), decimal, natChars]

theorem decimal_eq_cons {n : Nat} (positive : 0 < n) : ∃ d ds, decimal n = (d + 1) :: ds := by
  induction n using Nat.strongRecOn with
  | ind n ih =>
    cases Nat.lt_or_ge n 10 with
    | inl low =>
      refine ⟨n - 1, [], ?_⟩
      rw [decimal_of_lt low, Nat.sub_add_cancel positive]
    | inr high =>
      obtain ⟨d, ds, front⟩ := ih (n / 10) (by omega) (by omega)
      refine ⟨d, ds ++ [n % 10], ?_⟩
      rw [decimal_of_le high, front, List.cons_append]

theorem readWhole?_natChars (n : Nat) {rest : List Char} (stops : Stops rest) :
    readWhole? (natChars n ++ rest) = some (decimal n, rest) := by
  have read := readDigits_append (fun c => isDigit_of_mem_natChars (n := n)) stops.readDigits []
  rw [List.reverse_nil, List.nil_append, ← decimal] at read
  rw [readWhole?, read]
  cases n with
  | zero => rfl
  | succ n =>
    obtain ⟨d, ds, digits⟩ := decimal_eq_cons n.succ_pos
    rw [Nat.succ_eq_add_one] at digits
    rw [digits]
    rfl

theorem readMagnitude?_natChars (negative : Bool) (n : Nat) {rest : List Char} (stops : Stops rest) :
    readMagnitude? negative (natChars n ++ rest) = some (⟨negative, decimal n, none, none⟩, rest) := by
  have fraction : readFraction? rest = some (none, rest) := by cases stops <;> rfl
  have exponent : readExponent? rest = some (none, rest) := by cases stops <;> rfl
  simp [readMagnitude?, readWhole?_natChars n stops, fraction, exponent]

theorem readLiteral?_of_magnitude {cs : List Char} {found : NumberLiteral × List Char}
    (read : readMagnitude? false cs = some found) : readLiteral? cs = some found := by
  unfold readLiteral?
  split
  · cases read
  · exact read

theorem le_foldl_digits (ds : List Nat) (n : Nat) : n ≤ ds.foldl (fun n d => n * 10 + d) n := by
  induction ds generalizing n with
  | nil => exact Nat.le_refl n
  | cons d ds ih => exact Nat.le_trans (by omega) (ih (n * 10 + d))

theorem takeDigits_of_le {ds : List Nat} {n : Nat} (taken : Nat)
    (fits : ds.foldl (fun n d => n * 10 + d) n ≤ Numeral.maxSignificand) :
    Numeral.takeDigits n taken ds = (ds.foldl (fun n d => n * 10 + d) n, taken + ds.length, 0) := by
  induction ds generalizing n taken with
  | nil => rfl
  | cons d ds ih =>
    have first := Nat.le_trans (le_foldl_digits ds (n * 10 + d)) fits
    rw [Numeral.takeDigits, if_pos first, ih _ fits, List.foldl_cons, List.length_cons, Nat.add_right_comm,
      Nat.add_assoc]

theorem ofLiteral?_decimal {negative : Bool} {n : Nat} {value : Int}
    (fits : Numeral.integer? negative n = some value) (most : n ≤ Numeral.maxSignificand) :
    Numeral.ofLiteral? ⟨negative, decimal n, none, none⟩ = some (.int value) := by
  have all : (decimal n).foldl (fun n d => n * 10 + d) 0 = n := ofDigits_decimal n
  have small : (decimal n).foldl (fun n d => n * 10 + d) 0 ≤ Numeral.maxSignificand := by
    rw [all]
    exact most
  have taken := takeDigits_of_le 0 small
  rw [all] at taken
  simp [Numeral.ofLiteral?, taken, fits]

theorem readNumber?_intChars {n : Int} (least : -0x8000000000000000 ≤ n) (most : n < 0x10000000000000000)
    {rest : List Char} (stops : Stops rest) : readNumber? (intChars n ++ rest) = some (.int n, rest) := by
  cases n with
  | ofNat n =>
    have plain := readLiteral?_of_magnitude (readMagnitude?_natChars false n stops)
    have bound : n ≤ Numeral.maxSignificand := by
      have below : (n : Int) < 0x10000000000000000 := most
      rw [Numeral.maxSignificand]
      omega
    have fits : Numeral.integer? false n = some (n : Int) := if_pos bound
    simp [readNumber?, intChars, plain, ofLiteral?_decimal fits bound, ofNumeral]
  | negSucc n =>
    have bound : n + 1 ≤ 0x8000000000000000 := by omega
    have fits : Numeral.integer? true (n + 1) = some (.negSucc n) := by
      simp [Numeral.integer?, bound, Int.negSucc_eq]
    have most : n + 1 ≤ Numeral.maxSignificand := Nat.le_trans bound (by decide)
    simp [readNumber?, intChars, readLiteral?, readMagnitude?_natChars true (n + 1) stops,
      ofLiteral?_decimal fits most, ofNumeral]

theorem hexValue?_hexDigit : ∀ n < 16, hexValue? (hexDigit n) = some n := by decide

theorem readString?_escape (fuel : Nat) (read : List Char) (c : Char) (rest : List Char) :
    readString? (fuel + 1) read (escape c ++ rest) = readString? fuel (c :: read) rest := by
  have same {n : Nat} (code : c.toNat = n) : Char.ofNat n = c := by rw [← code, Char.ofNat_toNat]
  unfold escape
  dsimp only
  split
  · rename_i quote
    rw [← same quote]
    rfl
  split
  · rename_i backslash
    rw [← same backslash]
    rfl
  split
  · rename_i quote backslash plain
    rw [List.singleton_append, readString?, if_neg quote, if_neg backslash, if_neg (Nat.not_lt.mpr plain)]
  iterate 5
    split
    · rename_i code
      rw [← same code]
      rfl
  · -- The other controls are written by their number, in which the first two digits are zeros.
    have high := hexValue?_hexDigit (c.toNat / 16) (by omega)
    have low := hexValue?_hexDigit (c.toNat % 16) (by omega)
    have zero : hexValue? '0' = some 0 := rfl
    have number : c.toNat / 16 * 16 + c.toNat % 16 = c.toNat := by omega
    have belowHigh : c.toNat < 0xD800 := by omega
    have belowLow : c.toNat < 0xDC00 := by omega
    have read : readNumbered? ('0' :: '0' :: hexDigit (c.toNat / 16) :: hexDigit (c.toNat % 16) :: rest) =
        some (c, rest) := by
      simp [readNumbered?, readUnit?, high, low, zero, number, same rfl, belowHigh, belowLow]
    simp [readString?, readEscape?, read]

theorem readString?_flatMap_escape {fuel : Nat} (cs read rest : List Char) (enough : cs.length < fuel) :
    readString? fuel read (cs.flatMap escape ++ '\x22' :: rest) =
      some (String.ofList (read.reverse ++ cs), rest) := by
  induction cs generalizing fuel read with
  | nil =>
    obtain ⟨fuel, rfl⟩ := Nat.exists_eq_add_one.mpr enough
    rw [List.append_nil]
    rfl
  | cons c cs ih =>
    obtain ⟨fuel, rfl⟩ := Nat.exists_eq_add_one.mpr (Nat.zero_lt_of_lt enough)
    rw [List.flatMap_cons, List.append_assoc, readString?_escape, ih (c :: read) (by simpa using enough),
      List.reverse_cons, List.append_assoc, List.singleton_append]

theorem length_escape_pos (c : Char) : 0 < (escape c).length := by
  unfold escape
  dsimp only
  repeat' split
  all_goals exact Nat.zero_lt_succ _

theorem length_lt_stringChars (s : String) : s.toList.length + 1 < (stringChars s).length := by
  have bound : ∀ cs : List Char, cs.length ≤ (cs.flatMap escape).length := by
    intro cs
    induction cs with
    | nil => exact Nat.le_refl _
    | cons c cs ih =>
      have first := length_escape_pos c
      rw [List.flatMap_cons, List.length_append, List.length_cons]
      omega
  have inner := bound s.toList
  rw [stringChars, List.length_cons, List.length_append, List.length_singleton]
  omega

theorem readString?_stringChars {fuel : Nat} (s : String) (rest : List Char) (enough : s.toList.length < fuel) :
    readString? fuel [] (s.toList.flatMap escape ++ ['\x22'] ++ rest) = some (s, rest) := by
  rw [List.append_assoc, List.singleton_append, readString?_flatMap_escape _ _ _ enough, List.reverse_nil,
    List.nil_append, String.ofList_toList]

theorem readKey?_stringChars {fuel : Nat} (key : String) (rest : List Char) (enough : key.toList.length < fuel) :
    readKey? fuel (stringChars key ++ ':' :: rest) = some (key, rest) := by
  show (readString? fuel [] (key.toList.flatMap escape ++ ['\x22'] ++ ':' :: rest)).bind _ = _
  rw [readString?_stringChars key _ enough]
  rfl

/-- A value is read off the front of a text that goes on behind it, with its characters as fuel. -/
def Reads (depth : Nat) (v : Json) : Prop :=
  ∀ (fuel : Nat) (rest : List Char), v.chars.length ≤ fuel → Stops rest →
    readValue? fuel depth (v.chars ++ rest) = some (v, rest)

theorem stops_itemChars (items : List Json) (rest : List Char) : Stops (itemChars items ++ rest) := by
  cases items with
  | nil => exact .bracket rest
  | cons v items => exact .comma _

theorem stops_memberChars (members : List (String × Json)) (rest : List Char) :
    Stops (memberChars members ++ rest) := by
  cases members with
  | nil => exact .brace rest
  | cons m members => exact .comma _

theorem readItems?_chars {depth : Nat} {items : List Json} (each : ∀ v ∈ items, Reads depth v) {first : Json}
    (reads : Reads depth first) {fuel : Nat} (read : List Json) (rest : List Char)
    (enough : (first.chars ++ itemChars items).length ≤ fuel) :
    readItems? fuel depth read (first.chars ++ (itemChars items ++ rest)) =
      some (.arr (read.reverse ++ first :: items), rest) := by
  induction items generalizing first fuel read with
  | nil =>
    rw [itemChars, List.length_append, List.length_singleton] at enough
    obtain ⟨fuel, rfl⟩ := Nat.exists_eq_add_one.mpr (Nat.zero_lt_of_lt enough)
    rw [readItems?, reads fuel _ (by omega) (stops_itemChars [] rest), ← List.reverse_cons]
    rfl
  | cons v items ih =>
    rw [itemChars, List.length_append, List.length_cons] at enough
    obtain ⟨fuel, rfl⟩ := Nat.exists_eq_add_one.mpr (Nat.zero_lt_of_lt enough)
    have room : (v.chars ++ itemChars items).length ≤ fuel := by omega
    have later := ih (fun v member => each v (List.mem_cons_of_mem _ member)) (each v List.mem_cons_self)
      (first :: read) room
    have taken : (first :: read).reverse ++ v :: items = read.reverse ++ first :: v :: items := by
      rw [List.reverse_cons, List.append_assoc, List.singleton_append]
    rw [readItems?, reads fuel _ (by omega) (stops_itemChars (v :: items) rest), itemChars, List.cons_append,
      List.append_assoc, ← taken]
    exact later

theorem readMembers?_chars {depth : Nat} {members : List (String × Json)} (each : ∀ m ∈ members, Reads depth m.2)
    {key : String} {first : Json} (reads : Reads depth first) {fuel : Nat} (read : List (String × Json))
    (rest : List Char) (enough : (stringChars key ++ ':' :: (first.chars ++ memberChars members)).length ≤ fuel) :
    readMembers? fuel depth read (stringChars key ++ ':' :: (first.chars ++ (memberChars members ++ rest))) =
      some (.obj (read.reverse ++ (key, first) :: members), rest) := by
  have quoted := length_lt_stringChars key
  induction members generalizing key first fuel read with
  | nil =>
    rw [memberChars, List.length_append, List.length_cons, List.length_append, List.length_singleton] at enough
    obtain ⟨fuel, rfl⟩ := Nat.exists_eq_add_one.mpr (Nat.zero_lt_of_lt enough)
    rw [readMembers?, readKey?_stringChars key _ (by omega)]
    dsimp only
    rw [reads fuel _ (by omega) (stops_memberChars [] rest), ← List.reverse_cons]
    rfl
  | cons m members ih =>
    obtain ⟨next, v⟩ := m
    rw [memberChars, List.length_append, List.length_cons, List.length_append, List.length_cons] at enough
    obtain ⟨fuel, rfl⟩ := Nat.exists_eq_add_one.mpr (Nat.zero_lt_of_lt enough)
    have value : Reads depth v := each (next, v) List.mem_cons_self
    have room : (stringChars next ++ ':' :: (v.chars ++ memberChars members)).length ≤ fuel := by omega
    have later := ih (fun m member => each m (List.mem_cons_of_mem _ member)) value ((key, first) :: read) room
      (length_lt_stringChars next)
    have taken : ((key, first) :: read).reverse ++ (next, v) :: members =
        read.reverse ++ (key, first) :: (next, v) :: members := by
      rw [List.reverse_cons, List.append_assoc, List.singleton_append]
    rw [readMembers?, readKey?_stringChars key _ (by omega)]
    dsimp only
    rw [reads fuel _ (by omega) (stops_memberChars ((next, v) :: members) rest), memberChars, List.cons_append,
      List.append_assoc, List.cons_append, List.append_assoc, ← taken]
    exact later

def OpensNumber (c : Char) : Prop := c = '-' ∨ c.isDigit = true

theorem OpensNumber.ne {c d : Char} (opens : OpensNumber c) (unsigned : d ≠ '-') (letter : d.isDigit = false) :
    c ≠ d := by
  rintro rfl
  cases opens with
  | inl sign => exact unsigned sign
  | inr digit => exact Bool.false_ne_true (letter.symm.trans digit)

theorem OpensNumber.visible {c : Char} (opens : OpensNumber c) : isSpace c = false := by
  cases opens with
  | inl sign =>
    rw [sign]
    rfl
  | inr digit =>
    have found := digit?_of_isDigit digit
    rw [digit?] at found
    split at found
    · rename_i range
      rw [Bool.and_eq_true, decide_eq_true_eq, decide_eq_true_eq] at range
      simp only [isSpace, Bool.or_eq_false_iff, beq_eq_false_iff_ne]
      omega
    · cases found

theorem opensNumber_intChars (n : Int) : ∃ c cs, intChars n = c :: cs ∧ OpensNumber c := by
  cases n with
  | ofNat n =>
    obtain ⟨c, cs, shown⟩ := List.exists_cons_of_ne_nil (Nat.toDigits_ne_nil (n := n) (b := 10))
    have first : c ∈ natChars n := by
      rw [natChars, shown]
      exact List.mem_cons_self
    exact ⟨c, cs, shown, .inr (isDigit_of_mem_natChars first)⟩
  | negSucc n => exact ⟨_, _, rfl, .inl rfl⟩

theorem readValue?_of_number {c : Char} (opens : OpensNumber c) (fuel depth : Nat) (cs : List Char) :
    readValue? (fuel + 1) depth (c :: cs) = readNumber? (c :: cs) := by
  rw [readValue?, skipSpace_cons opens.visible]
  split
  case h_7 => rfl
  all_goals
    rename_i same
    exact absurd (List.cons.inj same).1 (opens.ne (by decide) (by decide))

theorem readValue?_of_item {c : Char} (visible : isSpace c = false) (item : c ≠ ']') (fuel depth : Nat)
    (cs : List Char) :
    readValue? (fuel + 1) (depth + 1) ('[' :: c :: cs) = readItems? fuel depth [] (c :: cs) := by
  rw [readValue?, skipSpace_cons (by decide)]
  split
  case h_5 rest same =>
    cases same
    dsimp only
    rw [skipSpace_cons visible]
    split
    · rename_i same
      exact absurd (List.cons.inj same).1 item
    · rfl
  case h_7 =>
    have never : ∀ rest, '[' :: c :: cs = '[' :: rest → False := by assumption
    exact (never _ rfl).elim
  all_goals
    rename_i same
    exact absurd (List.cons.inj same).1 (by decide)

theorem Legible.chars_eq_cons {depth : Nat} {v : Json} (legible : Legible depth v) :
    ∃ c cs, v.chars = c :: cs ∧ isSpace c = false ∧ c ≠ ']' := by
  cases legible with
  | null => exact ⟨_, _, rfl, by decide, by decide⟩
  | bool b => cases b <;> exact ⟨_, _, rfl, by decide, by decide⟩
  | @int _ n least most =>
    obtain ⟨c, cs, shown, opens⟩ := opensNumber_intChars n
    exact ⟨c, cs, by rw [chars, shown], opens.visible, opens.ne (by decide) (by decide)⟩
  | str s => exact ⟨_, _, rfl, by decide, by decide⟩
  | @arr _ items each => cases items <;> exact ⟨_, _, rfl, by decide, by decide⟩
  | @obj _ members each => cases members <;> exact ⟨_, _, rfl, by decide, by decide⟩

theorem Legible.reads {depth : Nat} {v : Json} (legible : Legible depth v) : Reads depth v := by
  induction legible with
  | null =>
    intro fuel rest enough _
    obtain ⟨fuel, rfl⟩ := Nat.exists_eq_add_one.mpr (Nat.zero_lt_of_lt enough)
    rfl
  | bool b =>
    intro fuel rest enough _
    cases b
    all_goals
      obtain ⟨fuel, rfl⟩ := Nat.exists_eq_add_one.mpr (Nat.zero_lt_of_lt enough)
      rfl
  | @int depth n least most =>
    intro fuel rest enough stops
    obtain ⟨c, cs, shown, opens⟩ := opensNumber_intChars n
    rw [chars, shown] at enough
    obtain ⟨fuel, rfl⟩ := Nat.exists_eq_add_one.mpr (Nat.zero_lt_of_lt enough)
    rw [chars, shown, List.cons_append, readValue?_of_number opens, ← List.cons_append, ← shown]
    exact readNumber?_intChars least most stops
  | @str depth s =>
    intro fuel rest enough _
    have quoted := length_lt_stringChars s
    rw [chars] at enough
    obtain ⟨fuel, rfl⟩ := Nat.exists_eq_add_one.mpr (Nat.zero_lt_of_lt (Nat.lt_of_lt_of_le quoted enough))
    show (readString? fuel [] (s.toList.flatMap escape ++ ['\x22'] ++ rest)).map _ = _
    rw [readString?_stringChars s rest (by omega)]
    rfl
  | @arr depth items each ih =>
    intro fuel rest enough stops
    obtain ⟨fuel, rfl⟩ : ∃ n, fuel = n + 1 := by
      cases items <;> exact Nat.exists_eq_add_one.mpr (Nat.zero_lt_of_lt enough)
    cases items with
    | nil => rfl
    | cons v items =>
      rw [chars, List.length_cons] at enough
      have room : (v.chars ++ itemChars items).length ≤ fuel := Nat.le_of_succ_le_succ enough
      have inside := readItems?_chars (fun v member => ih v (List.mem_cons_of_mem _ member)) (ih v List.mem_cons_self)
        [] rest room
      obtain ⟨c, cs, shown, visible, item⟩ := (each v List.mem_cons_self).chars_eq_cons
      rw [chars, List.cons_append, List.append_assoc, shown, List.cons_append,
        readValue?_of_item visible item, ← List.cons_append, ← shown]
      exact inside
  | @obj depth members each ih =>
    intro fuel rest enough stops
    obtain ⟨fuel, rfl⟩ : ∃ n, fuel = n + 1 := by
      cases members <;> exact Nat.exists_eq_add_one.mpr (Nat.zero_lt_of_lt enough)
    cases members with
    | nil => rfl
    | cons m members =>
      obtain ⟨key, v⟩ := m
      rw [chars, List.length_cons] at enough
      have value : Reads depth v := ih (key, v) List.mem_cons_self
      have room : (stringChars key ++ ':' :: (v.chars ++ memberChars members)).length ≤ fuel :=
        Nat.le_of_succ_le_succ enough
      have inside := readMembers?_chars (fun m member => ih m (List.mem_cons_of_mem _ member)) value [] rest room
      rw [chars, List.cons_append, List.append_assoc, List.cons_append, List.append_assoc]
      exact inside

theorem ofText?_text {v : Json} (legible : Legible maxDepth v) : ofText? v.text = some v := by
  have whole := legible.reads (2 * v.chars.length + 2) [] (by omega) .nil
  rw [List.append_nil] at whole
  rw [ofText?, text, String.toList_ofList, ofChars?, whole]
  rfl

end Bookings.Json
