import Bookings.Proofs.Log.Field

namespace Bookings.Capacities

theorem isDigit_digitChar : ∀ d : Fin 10, (digitChar d).isDigit = true := by decide

theorem toNat_digitChar : ∀ d : Fin 10, (digitChar d).toNat - '0'.toNat = d.val := by decide

theorem digit?_eq_some {c : Char} {d : Fin 10} (read : digit? c = some d) : c = digitChar d := by
  rw [digit?] at read
  split at read
  · rename_i digit
    cases read
    have back : c.toNat - 48 + 48 = c.toNat := Nat.sub_add_cancel digit.1
    rw [digitChar, back, Char.ofNat_toNat]
  · cases read

theorem digit?_eq_none {c : Char} (unread : digit? c = none) : c.isDigit = false := by
  rw [digit?] at unread
  split at unread
  · cases unread
  · rename_i other
    exact Bool.eq_false_iff.mpr fun digit => other (Char.isDigit_iff_toNat.mp digit)

/-- The first character that is no decimal digit stands at this position, counted from 0. -/
structure FirstOther (text : List Char) (i : Nat) (c : Char) : Prop where
  found : text[i]? = some c
  other : c.isDigit = false
  before : ∀ d ∈ text.take i, d.isDigit = true

theorem FirstOther.cons {text : List Char} {i : Nat} {c d : Char} (first : FirstOther text i c)
    (digit : d.isDigit = true) : FirstOther (d :: text) (i + 1) c where
  found := first.found
  other := first.other
  before := by
    rw [List.take_succ_cons]
    exact List.forall_mem_cons.mpr ⟨digit, first.before⟩

theorem FirstOther.not_before {text : List Char} {i j : Nat} {c d : Char} (first : FirstOther text i c)
    (second : FirstOther text j d) : ¬i < j := by
  intro early
  have present : c ∈ text.take j := List.mem_of_getElem? (i := i) (by rw [List.getElem?_take_of_lt early, first.found])
  exact Bool.false_ne_true (first.other.symm.trans (second.before c present))

theorem FirstOther.unique {text : List Char} {i j : Nat} {c d : Char} (first : FirstOther text i c)
    (second : FirstOther text j d) : i = j ∧ c = d := by
  have same : i = j := Nat.le_antisymm (Nat.not_lt.mp (second.not_before first)) (Nat.not_lt.mp (first.not_before second))
  subst same
  exact ⟨rfl, Option.some.inj (first.found.symm.trans second.found)⟩

inductive Reads (index : Nat) (read : List (Fin 10)) (text : List Char) : Except ScheduleError Capacities → Prop
  | all (digits : List (Fin 10)) (shown : text = digits.map digitChar) :
      Reads index read text (.ok ⟨read.reverse ++ digits⟩)
  | stopped {i : Nat} {c : Char} (first : FirstOther text i c) :
      Reads index read text (.error (.notADigit (index + i) c))

theorem reads_readFrom (index : Nat) (read : List (Fin 10)) (text : List Char) :
    Reads index read text (readFrom index read text) := by
  induction text generalizing index read with
  | nil =>
    rw [readFrom, ← List.append_nil read.reverse]
    exact .all [] rfl
  | cons c text ih =>
    rw [readFrom]
    cases found : digit? c with
    | none =>
      have first : FirstOther (c :: text) 0 c := ⟨rfl, digit?_eq_none found, List.forall_mem_nil _⟩
      exact .stopped first
    | some d =>
      cases digit?_eq_some found
      have rest := ih (index + 1) (d :: read)
      dsimp only
      generalize readFrom (index + 1) (d :: read) text = result at rest ⊢
      cases rest with
      | all digits shown =>
        rw [List.reverse_cons, List.append_assoc]
        exact .all (d :: digits) (congrArg (digitChar d :: ·) shown)
      | stopped first =>
        rw [Nat.add_assoc, Nat.add_comm 1]
        exact .stopped (first.cons (isDigit_digitChar d))

theorem parse_cases (s : String) :
    (∃ c, parse s = .ok c ∧ s = c.text) ∨
      ∃ i letter, parse s = .error (.notADigit i letter) ∧ FirstOther s.toList i letter := by
  have read := reads_readFrom 0 [] s.toList
  rw [parse]
  generalize readFrom 0 [] s.toList = result at read ⊢
  cases read with
  | all digits shown =>
    refine .inl ⟨_, rfl, ?_⟩
    rw [text, List.reverse_nil, List.nil_append, ← shown, String.ofList_toList]
  | stopped first =>
    rw [Nat.zero_add]
    exact .inr ⟨_, _, rfl, first⟩

theorem text_of_parse {s : String} {c : Capacities} (parsed : parse s = .ok c) : c.text = s := by
  rcases parse_cases s with ⟨d, found, shown⟩ | ⟨i, letter, stopped, _⟩
  · cases found.symm.trans parsed
    exact shown.symm
  · cases stopped.symm.trans parsed

theorem isDigit_of_mem_text {c : Capacities} {letter : Char} (member : letter ∈ c.text.toList) :
    letter.isDigit = true := by
  rw [text, String.toList_ofList] at member
  obtain ⟨d, _, rfl⟩ := List.mem_map.mp member
  exact isDigit_digitChar d

theorem at?_eq_letter (c : Capacities) (timeslot : UInt32) :
    c.at? timeslot = c.text.toList[timeslot.toNat]?.map fun letter => letter.toNat - '0'.toNat := by
  rw [text, String.toList_ofList, List.getElem?_map, Option.map_map, at?]
  exact congrArg (c.digits[timeslot.toNat]?.map ·) (funext fun d => (toNat_digitChar d).symm)

/-- A text is read if and only if it consists of decimal digits, which then are the capacities in order; another is
refused for the first character that is none. Writing is the inverse of reading. -/
theorem texts_are_read_exactly :
    (∀ s : String,
      ((∃ c, parse s = .ok c) ↔ ∀ letter ∈ s.toList, letter.isDigit = true) ∧
        (∀ c, parse s = .ok c → c.text = s ∧ c.size = s.length ∧
          ∀ timeslot, c.at? timeslot = s.toList[timeslot.toNat]?.map fun letter => letter.toNat - '0'.toNat) ∧
        ∀ e, parse s = .error e ↔ ∃ i letter, FirstOther s.toList i letter ∧ e = .notADigit i letter) ∧
      ∀ c, parse c.text = .ok c := by
  refine ⟨fun s => ⟨⟨?_, ?_⟩, ?_, fun e => ⟨?_, ?_⟩⟩, parse_text⟩
  · rintro ⟨c, parsed⟩ letter member
    rw [← text_of_parse parsed] at member
    exact isDigit_of_mem_text member
  · intro digits
    rcases parse_cases s with ⟨c, parsed, _⟩ | ⟨i, letter, _, first⟩
    · exact ⟨c, parsed⟩
    · have digit := digits letter (List.mem_of_getElem? first.found)
      exact absurd (first.other.symm.trans digit) Bool.false_ne_true
  · intro c parsed
    have shown := text_of_parse parsed
    subst shown
    exact ⟨rfl, size_of_parse parsed, at?_eq_letter c⟩
  · intro refused
    rcases parse_cases s with ⟨c, parsed, _⟩ | ⟨i, letter, stopped, first⟩
    · cases parsed.symm.trans refused
    · cases stopped.symm.trans refused
      exact ⟨i, letter, first, rfl⟩
  · rintro ⟨i, letter, first, rfl⟩
    rcases parse_cases s with ⟨c, _, shown⟩ | ⟨j, found, stopped, second⟩
    · have member := List.mem_of_getElem? first.found
      rw [shown] at member
      exact absurd (first.other.symm.trans (isDigit_of_mem_text member)) Bool.false_ne_true
    · obtain ⟨rfl, rfl⟩ := first.unique second
      exact stopped

example : parse "2\u0663é" = .error (.notADigit 1 '\u0663') := by rfl

end Bookings.Capacities
