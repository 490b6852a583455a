import Bookings.Log.Field
import Bookings.Schedule.Capacities
import Mathlib.Algebra.Group.Nat.Defs

namespace Bookings

namespace Id

theorem digit?_letter : ∀ d < 32, digit? (letter d) = some d := by decide

theorem length_digitsBefore (rest : List Char) (count n : Nat) :
    (digitsBefore rest count n).length = count + rest.length := by
  induction count generalizing rest n with
  | zero => simp [digitsBefore]
  | succ count ih =>
    rw [digitsBefore, ih, List.length_cons]
    omega

theorem readDigits?_digitsBefore (m : Nat) (rest : List Char) (count n : Nat) :
    readDigits? m (digitsBefore rest count n) = readDigits? (m * 32 ^ count + n % 32 ^ count) rest := by
  induction count generalizing rest n with
  | zero => simp [digitsBefore, Nat.mod_one]
  | succ count ih =>
    have value : (m * 32 ^ count + n / 32 % 32 ^ count) * 32 + n % 32 =
        m * 32 ^ (count + 1) + n % 32 ^ (count + 1) := by
      rw [Nat.pow_succ', Nat.mod_mul]
      have regroup : m * (32 * 32 ^ count) = m * 32 ^ count * 32 := by
        rw [Nat.mul_assoc, Nat.mul_comm 32]
      omega
    rw [digitsBefore, ih, readDigits?, digit?_letter _ (Nat.mod_lt n (by omega))]
    dsimp only
    rw [value]

theorem ofText?_text (i : Id) : ofText? i.text = some i := by
  have bound : i.value.val < 32 ^ 26 := Nat.lt_trans i.value.isLt (by decide)
  have back : ofNat i.value.val = i := by
    rw [ofNat, Fin.ofNat_val_eq_self]
  have size : i.chars.length = 26 := length_digitsBefore [] 26 i.value.val
  rw [ofText?, text, String.toList_ofList, ofChars?, if_pos size, chars, readDigits?_digitsBefore, Nat.zero_mul,
    Nat.zero_add, Nat.mod_eq_of_lt bound, readDigits?, Option.map_some, back]

end Id

namespace Capacities

theorem digit?_digitChar : ∀ d : Fin 10, digit? (digitChar d) = some d := by decide

theorem readFrom_digits (index : Nat) (read digits : List (Fin 10)) :
    readFrom index read (digits.map digitChar) = .ok ⟨read.reverse ++ digits⟩ := by
  induction digits generalizing index read with
  | nil => simp [readFrom]
  | cons d digits ih =>
    rw [List.map_cons, readFrom, digit?_digitChar]
    dsimp only
    rw [ih, List.reverse_cons, List.append_assoc, List.singleton_append]

theorem parse_text (c : Capacities) : parse c.text = .ok c := by
  rw [parse, text, String.toList_ofList, readFrom_digits]
  rfl

theorem size_of_readFrom {index : Nat} {read : List (Fin 10)} {text : List Char} {c : Capacities}
    (parsed : readFrom index read text = .ok c) : c.size = read.length + text.length := by
  induction text generalizing index read with
  | nil =>
    cases parsed
    exact List.length_reverse
  | cons letter text ih =>
    rw [readFrom] at parsed
    split at parsed
    · rw [ih parsed, List.length_cons, List.length_cons]
      omega
    · cases parsed

theorem size_of_parse {text : String} {c : Capacities} (parsed : parse text = .ok c) : c.size = text.length := by
  rw [size_of_readFrom parsed, List.length_nil, Nat.zero_add, String.length_toList]

end Capacities

namespace Log

/-- The reader takes off the front of the bytes what the writer put there, if that is shorter than the longest
text or list. -/
def RoundTrips {α : Type} (write : α → List UInt8) (read : List UInt8 → Option (α × List UInt8)) : Prop :=
  ∀ a rest, (write a).length < 2 ^ 64 → read (write a ++ rest) = some (a, rest)

theorem length_wordBytes (count n : Nat) : (wordBytes count n).length = count := by
  induction count generalizing n with
  | zero => rfl
  | succ count ih => rw [wordBytes, List.length_cons, ih]

theorem readWord?_wordBytes (count n : Nat) (rest : List UInt8) :
    readWord? count (wordBytes count n ++ rest) = some (n % 256 ^ count, rest) := by
  induction count generalizing n with
  | zero => simp [wordBytes, readWord?, Nat.mod_one]
  | succ count ih =>
    have byte : (UInt8.ofNat n).toNat = n % 256 := UInt8.toNat_ofNat'
    rw [wordBytes, List.cons_append, readWord?, ih, Nat.pow_succ', Nat.mod_mul]
    simp only [byte]

theorem takeBytes?_append (bytes rest : List UInt8) :
    takeBytes? bytes.length (bytes ++ rest) = some (bytes, rest) := by
  rw [takeBytes?, List.take_left, List.drop_left]
  exact if_pos rfl

theorem readWord32?_word32Bytes (n : UInt32) (rest : List UInt8) :
    readWord32? (word32Bytes n ++ rest) = some (n, rest) := by
  have low : n.toNat % 256 ^ 4 = n.toNat := Nat.mod_eq_of_lt n.toNat_lt
  simp only [readWord32?, word32Bytes, readWord?_wordBytes, low, UInt32.ofNat_toNat]

theorem readInt?_intBytes (n : Int64) (rest : List UInt8) : readInt? (intBytes n ++ rest) = some (n, rest) := by
  have low : n.toUInt64.toNat % 256 ^ 8 = n.toUInt64.toNat := Nat.mod_eq_of_lt n.toUInt64.toNat_lt
  simp only [readInt?, intBytes, readWord?_wordBytes, low, UInt64.ofNat_toNat]
  rfl

theorem readSingle?_singleBytes (x : Single) (rest : List UInt8) :
    readSingle? (singleBytes x ++ rest) = some (x, rest) := by
  simp only [readSingle?, singleBytes, readWord32?_word32Bytes]

theorem length_textBytes (s : String) : (textBytes s).length = 8 + s.utf8ByteSize := by
  rw [textBytes, List.length_append, length_wordBytes, Array.length_toList]
  rfl

theorem roundTrips_text : RoundTrips textBytes readText? := by
  intro s rest short
  rw [length_textBytes] at short
  have low : s.utf8ByteSize % 256 ^ 8 = s.utf8ByteSize := Nat.mod_eq_of_lt (by omega)
  have size : s.utf8ByteSize = s.toByteArray.data.toList.length := by
    rw [Array.length_toList]
    rfl
  have decoded : String.fromUTF8? ⟨s.toByteArray.data.toList.toArray⟩ = some s := by
    rw [String.fromUTF8?, dif_pos s.isValidUTF8]
    rfl
  rw [readText?, textBytes, List.append_assoc, readWord?_wordBytes, low, size]
  simp only [takeBytes?_append, decoded]

theorem roundTrips_id : RoundTrips idBytes readId? := by
  intro i rest short
  rw [readId?, idBytes, roundTrips_text _ _ short]
  simp only [Id.ofText?_text]

theorem roundTrips_optional {α : Type} {write : α → List UInt8} {read : List UInt8 → Option (α × List UInt8)}
    (item : RoundTrips write read) : RoundTrips (optionalBytes write) (readOptional? read) := by
  intro a rest short
  cases a with
  | none => rfl
  | some a =>
    rw [optionalBytes, List.length_cons] at short
    have found := item a rest (by omega)
    simp [optionalBytes, readOptional?, found]

theorem readItems?_flatMap {α : Type} {write : α → List UInt8} {read : List UInt8 → Option (α × List UInt8)}
    (item : RoundTrips write read) (done items : List α) (rest : List UInt8)
    (short : (items.flatMap write).length < 2 ^ 64) :
    readItems? read items.length done (items.flatMap write ++ rest) = some (done.reverse ++ items, rest) := by
  induction items generalizing done with
  | nil => simp [readItems?]
  | cons a items ih =>
    rw [List.flatMap_cons, List.length_append] at short
    have first := item a (items.flatMap write ++ rest) (by omega)
    rw [List.length_cons, readItems?, List.flatMap_cons, List.append_assoc, first]
    dsimp only
    rw [ih _ (by omega), List.reverse_cons, List.append_assoc, List.singleton_append]

theorem length_le_flatMap {α : Type} {write : α → List UInt8} (nonempty : ∀ a, 0 < (write a).length) (items : List α) :
    items.length ≤ (items.flatMap write).length := by
  induction items with
  | nil => exact Nat.le_refl _
  | cons a items ih =>
    have first := nonempty a
    rw [List.flatMap_cons, List.length_append, List.length_cons]
    omega

theorem roundTrips_list {α : Type} {write : α → List UInt8} {read : List UInt8 → Option (α × List UInt8)}
    (item : RoundTrips write read) (nonempty : ∀ a, 0 < (write a).length) :
    RoundTrips (listBytes write) (readList? read) := by
  intro items rest short
  rw [listBytes, List.length_append, length_wordBytes] at short
  have bound := length_le_flatMap nonempty items
  have low : items.length % 256 ^ 8 = items.length := Nat.mod_eq_of_lt (by omega)
  rw [readList?, listBytes, List.append_assoc, readWord?_wordBytes, low]
  exact readItems?_flatMap item [] items rest (by omega)

end Log

end Bookings
