import Bookings.Json.Text

namespace Bookings

def Printable (cs : List Char) : Prop := ∀ c ∈ cs, 32 ≤ c.toNat

namespace Printable

instance (cs : List Char) : Decidable (Printable cs) := List.decidableBAll (fun c : Char => 32 ≤ c.toNat) cs

variable {cs ds : List Char}

theorem nil : Printable [] := List.forall_mem_nil _

theorem cons {c : Char} (first : 32 ≤ c.toNat) (rest : Printable cs) : Printable (c :: cs) :=
  List.forall_mem_cons.mpr ⟨first, rest⟩

theorem append (front : Printable cs) (back : Printable ds) : Printable (cs ++ ds) :=
  List.forall_mem_append.mpr ⟨front, back⟩

theorem of_subset (printable : Printable ds) (among : cs ⊆ ds) : Printable cs := fun c member =>
  printable c (among member)

theorem newline_notMem (printable : Printable cs) : '\n' ∉ cs := fun member =>
  absurd (printable _ member) (by decide)

theorem toDigits (n : Nat) : Printable (Nat.toDigits 10 n) := by
  intro c member
  have digit := Nat.isDigit_of_mem_toDigits (by decide) (by decide) member
  rw [Char.isDigit, Bool.and_eq_true, decide_eq_true_eq] at digit
  have low : 48 ≤ c.val.toNat := UInt32.le_iff_toNat_le.mp digit.1
  exact Nat.le_trans (by decide) low

end Printable

namespace DecimalLayout

theorem printable_zeros (n : Nat) : Printable (zeros n) := by
  intro c member
  rw [zeros, List.mem_replicate] at member
  rw [member.2]
  decide

theorem printable_plain {digits : List Char} (printable : Printable digits) (exponent : Int) :
    Printable (plain digits exponent) := by
  unfold plain
  dsimp only
  split
  · exact (printable.append (printable_zeros _)).append (by decide)
  split
  · exact (printable.of_subset (List.take_subset _ _)).append
      (.cons (by decide) (printable.of_subset (List.drop_subset _ _)))
  · exact .cons (by decide) (.cons (by decide) ((printable_zeros _).append printable))

theorem printable_scientific {digits : List Char} (printable : Printable digits) (exponent : Int) :
    Printable (scientific digits exponent) := by
  unfold scientific
  dsimp only
  have rest := printable.of_subset (List.tail_sublist digits).subset
  refine ((printable.of_subset (List.take_subset _ _)).append ?_).append (.cons (by decide) (.cons ?_ (.toDigits _)))
  · split
    · exact .nil
    · exact .cons (by decide) rest
  · split <;> decide

theorem printable_chars (l : DecimalLayout) (d : Decimal) : Printable (l.chars d) := by
  unfold chars
  dsimp only
  split
  · exact printable_plain (.toDigits _) _
  · exact printable_scientific (.toDigits _) _

end DecimalLayout

theorem Double.printable_chars {x : Double} {cs : List Char} (shown : x.chars? = some cs) : Printable cs := by
  rw [chars?, Option.map_eq_some_iff] at shown
  obtain ⟨v, _, rfl⟩ := shown
  have magnitude : Printable (if v.significand = 0 then ['0', '.', '0']
      else DecimalLayout.standard.chars (Shortest.decimal v.significand v.exponent)) := by
    split
    · decide
    · exact DecimalLayout.printable_chars _ _
  dsimp only
  split
  · exact .cons (by decide) magnitude
  · exact magnitude

namespace Json

theorem printable_hexDigit : ∀ n < 16, 32 ≤ (hexDigit n).toNat := by decide

theorem printable_escape (c : Char) : Printable (escape c) := by
  unfold escape
  dsimp only
  split
  · decide
  split
  · decide
  split
  · rename_i plain
    exact .cons plain .nil
  iterate 5
    split
    · decide
  · have low := printable_hexDigit (c.toNat / 16) (by omega)
    have high := printable_hexDigit (c.toNat % 16) (by omega)
    have mark : Printable ['\\', 'u', '0', '0'] := by decide
    exact mark.append (.cons low (.cons high .nil))

theorem printable_stringChars (s : String) : Printable (stringChars s) := by
  refine .cons (by decide) (.append ?_ (by decide))
  intro c member
  obtain ⟨a, _, shown⟩ := List.mem_flatMap.mp member
  exact printable_escape a c shown

theorem printable_intChars (n : Int) : Printable (intChars n) := by
  cases n with
  | ofNat n => exact .toDigits n
  | negSucc n => exact .cons (by decide) (.toDigits (n + 1))

mutual

theorem printable_chars : (v : Json) → Printable v.chars
  | .null => by
    rw [chars]
    decide
  | .bool b => by
    rw [chars]
    cases b <;> decide
  | .int n => by
    rw [chars]
    exact printable_intChars n
  | .float x => by
    rw [chars]
    cases shown : x.chars? with
    | none => decide
    | some cs => exact Double.printable_chars shown
  | .str s => by
    rw [chars]
    exact printable_stringChars s
  | .arr [] => by
    rw [chars]
    decide
  | .arr (v :: rest) => by
    rw [chars]
    exact .cons (by decide) (.append (printable_chars v) (printable_itemChars rest))
  | .obj [] => by
    rw [chars]
    decide
  | .obj ((key, v) :: rest) => by
    rw [chars]
    exact .cons (by decide) (.append (printable_stringChars key)
      (.cons (by decide) (.append (printable_chars v) (printable_memberChars rest))))

theorem printable_itemChars : (items : List Json) → Printable (itemChars items)
  | [] => by
    rw [itemChars]
    decide
  | v :: rest => by
    rw [itemChars]
    exact .cons (by decide) (.append (printable_chars v) (printable_itemChars rest))

theorem printable_memberChars : (members : List (String × Json)) → Printable (memberChars members)
  | [] => by
    rw [memberChars]
    decide
  | (key, v) :: rest => by
    rw [memberChars]
    exact .cons (by decide) (.append (printable_stringChars key)
      (.cons (by decide) (.append (printable_chars v) (printable_memberChars rest))))

end

theorem newline_notMem_text (v : Json) : '\n' ∉ v.text.toList := by
  rw [text, String.toList_ofList]
  exact v.printable_chars.newline_notMem

end Json

end Bookings
