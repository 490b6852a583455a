import Bookings.Protocol.Connection

namespace Bookings

theorem utf8EncodeChar_of_mem {c : Char} {b : UInt8} (member : b ∈ String.utf8EncodeChar c) (low : b.toNat < 128) :
    String.utf8EncodeChar c = [b] ∧ c.toNat = b.toNat := by
  have code : c.toNat = c.val.toNat := rfl
  unfold String.utf8EncodeChar at member ⊢
  dsimp only at member ⊢
  split at member
  · rename_i small
    have same := List.mem_singleton.mp member
    rw [if_pos small, same, UInt8.toNat_ofNat']
    exact ⟨rfl, by omega⟩
  · -- Every byte of a longer sequence has its highest bit set.
    have high : ∀ n, 128 ≤ n → n < 256 → b ≠ UInt8.ofNat n := by
      intro n least most same
      rw [same, UInt8.toNat_ofNat', Nat.mod_eq_of_lt most] at low
      omega
    exfalso
    repeat' split at member
    all_goals simp only [List.mem_cons, List.not_mem_nil, or_false] at member
    · rcases member with same | same
      all_goals exact high _ (by omega) (by omega) same
    · rcases member with same | same | same
      all_goals exact high _ (by omega) (by omega) same
    · rcases member with same | same | same | same
      all_goals exact high _ (by omega) (by omega) same

namespace Line

def bytes (s : String) : List UInt8 := s.toByteArray.data.toList

/-- A line without the carriage return that it may end in. -/
def text (s : String) : String :=
  if s.toList.getLast? = some '\r' then String.ofList s.toList.dropLast else s

def stream (lines : List String) : List UInt8 := lines.flatMap fun s => bytes s ++ [10]

theorem bytes_ofList (cs : List Char) : bytes (String.ofList cs) = cs.flatMap String.utf8EncodeChar := by
  rw [bytes, String.toByteArray_ofList, List.utf8Encode, List.data_toByteArray]

theorem bytes_eq (s : String) : bytes s = s.toList.flatMap String.utf8EncodeChar := by
  rw [← bytes_ofList, String.ofList_toList]

theorem length_bytes (s : String) : (bytes s).length = s.utf8ByteSize := by
  rw [bytes, Array.length_toList]
  rfl

theorem fromUTF8?_bytes (s : String) : String.fromUTF8? ⟨(bytes s).toArray⟩ = some s := by
  rw [bytes, String.fromUTF8?, dif_pos s.isValidUTF8]
  rfl

theorem newline_notMem_bytes {s : String} (whole : '\n' ∉ s.toList) : (10 : UInt8) ∉ bytes s := by
  intro member
  rw [bytes_eq, List.mem_flatMap] at member
  obtain ⟨c, among, coded⟩ := member
  have code := (utf8EncodeChar_of_mem coded (by decide)).2
  have feed : c = '\n' := Char.toNat_inj.mp code
  exact whole (feed ▸ among)

end Line

namespace Frame

theorem ofBytes_return (s : String) : ofBytes (13 :: (Line.bytes s).reverse) = .line s := by
  rw [ofBytes]
  simp only [List.reverse_reverse, Line.fromUTF8?_bytes]

theorem ofBytes_other {s : String} (other : (Line.bytes s).getLast? ≠ some 13) :
    ofBytes (Line.bytes s).reverse = .line s := by
  unfold ofBytes
  split
  · rename_i rest back
    rw [← List.head?_reverse, back] at other
    exact absurd rfl other
  · simp only [List.reverse_reverse, Line.fromUTF8?_bytes]

theorem ofBytes_reverse_bytes (s : String) : ofBytes (Line.bytes s).reverse = .line (Line.text s) := by
  rcases List.eq_nil_or_concat s.toList with none | ⟨cs, c, last⟩
  · have empty : s = "" := String.toList_eq_nil_iff.mp none
    subst empty
    rfl
  rw [List.concat_eq_append] at last
  have parts : Line.bytes s = cs.flatMap String.utf8EncodeChar ++ String.utf8EncodeChar c := by
    rw [Line.bytes_eq, last, List.flatMap_append, List.flatMap_singleton]
  rw [Line.text, last, List.getLast?_concat, List.dropLast_concat]
  by_cases returned : c = '\r'
  · have coded : String.utf8EncodeChar '\r' = [13] := by decide
    rw [if_pos (congrArg some returned), parts, returned, coded, List.reverse_append, ← Line.bytes_ofList]
    exact ofBytes_return (String.ofList cs)
  · rw [if_neg fun same => returned (Option.some.inj same)]
    refine ofBytes_other fun ends => ?_
    rw [parts, List.getLast?_append, List.getLast?_eq_some_getLast String.utf8EncodeChar_ne_nil, Option.some_or] at ends
    have member : (13 : UInt8) ∈ String.utf8EncodeChar c := Option.some.inj ends ▸ List.getLast_mem _
    have code := (utf8EncodeChar_of_mem member (by decide)).2
    exact returned (Char.toNat_inj.mp code)

theorem split_append {bs : List UInt8} (plain : (10 : UInt8) ∉ bs) (held : List UInt8) {count : Nat}
    (fits : count + bs.length ≤ maxLineBytes) (rest : List UInt8) :
    split held count (bs ++ rest) = split (bs.reverse ++ held) (count + bs.length) rest := by
  induction bs generalizing held count with
  | nil => rfl
  | cons b bs ih =>
    rw [List.mem_cons, not_or] at plain
    obtain ⟨other, more⟩ := plain
    rw [List.length_cons] at fits
    rw [List.cons_append, split, if_neg (Ne.symm other), if_neg (by omega), ih more _ (by omega), List.reverse_cons,
      List.append_assoc, List.singleton_append, List.length_cons]
    congr 1
    omega

theorem ofStream_line {s : String} (whole : '\n' ∉ s.toList) (short : s.utf8ByteSize ≤ maxLineBytes)
    (rest : List UInt8) : ofStream (Line.bytes s ++ 10 :: rest) = .line (Line.text s) :: ofStream rest := by
  have size := Line.length_bytes s
  rw [ofStream, split_append (Line.newline_notMem_bytes whole) [] (by omega), List.append_nil, split, if_pos rfl,
    ofBytes_reverse_bytes]
  rfl

theorem ofStream_overlong {s : String} (whole : '\n' ∉ s.toList) (long : maxLineBytes < s.utf8ByteSize)
    (rest : List UInt8) : ofStream (Line.bytes s ++ rest) = [.tooLong] := by
  have size := Line.length_bytes s
  have plain := Line.newline_notMem_bytes whole
  have parts : Line.bytes s = (Line.bytes s).take maxLineBytes ++ (Line.bytes s).drop maxLineBytes :=
    (List.take_append_drop _ _).symm
  have full : ((Line.bytes s).take maxLineBytes).length = maxLineBytes := by
    rw [List.length_take]
    omega
  cases beyond : (Line.bytes s).drop maxLineBytes with
  | nil =>
    have none := congrArg List.length beyond
    rw [List.length_drop, List.length_nil] at none
    omega
  | cons b back =>
    rw [beyond] at parts
    rw [parts, List.mem_append, List.mem_cons, not_or, not_or] at plain
    obtain ⟨front, other, _⟩ := plain
    rw [parts, ofStream, List.append_assoc, split_append front [] (by omega), full, List.cons_append, split,
      if_neg (Ne.symm other), if_pos (by omega)]

theorem ofStream_stream {lines : List String} (whole : ∀ s ∈ lines, '\n' ∉ s.toList)
    (short : ∀ s ∈ lines, s.utf8ByteSize ≤ maxLineBytes) (rest : List UInt8) :
    ofStream (Line.stream lines ++ rest) = (lines.map fun s => .line (Line.text s)) ++ ofStream rest := by
  induction lines with
  | nil => rfl
  | cons s lines ih =>
    obtain ⟨first, others⟩ := List.forall_mem_cons.mp whole
    obtain ⟨fits, fit⟩ := List.forall_mem_cons.mp short
    rw [Line.stream, List.flatMap_cons, ← Line.stream, List.append_assoc, List.append_assoc, List.singleton_append,
      ofStream_line first fits, ih others fit, List.map_cons, List.cons_append]

end Frame

end Bookings
