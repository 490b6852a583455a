import Bookings.Proofs.Json.Literal

namespace Bookings.Json

mutual

/-- The text is one of those that the grammar has for the value, without white space. A number of 64 bits may be shown
by any literal that it is nearest to; there is none for what is not finite. -/
inductive Shows : Json → List Char → Prop
  | null : Shows .null ['n', 'u', 'l', 'l']
  | yes : Shows (.bool true) ['t', 'r', 'u', 'e']
  | no : Shows (.bool false) ['f', 'a', 'l', 's', 'e']
  | int {n : Int} {l : NumberLiteral} {cs : List Char} (read : readLiteral? cs = some (l, []))
      (whole : l.fraction = none)
      (plain : l.exponent = none) (same : n = if l.negative then -(ofDigits l.whole : Int) else ofDigits l.whole) :
      Shows (.int n) cs
  | float {x : Double} {v : Dyadic} {l : NumberLiteral} {cs : List Char} (finite : x.value? = some v)
      (read : readLiteral? cs = some (l, [])) (sign : l.negative = v.negative)
      (nearest : BinaryFormat.double.Nearest l.size v) : Shows (.float x) cs
  | infinite {x : Double} (infinite : x.value? = none) : Shows (.float x) ['n', 'u', 'l', 'l']
  | str {s : String} {cs : List Char} (read : readString? (cs.length + 1) [] cs = some (s, [])) :
      Shows (.str s) ('\x22' :: cs)
  | arr {items : List Json} {texts : List (List Char)} (each : List.Forall₂ Shows items texts) :
      Shows (.arr items) ('[' :: ([','].intercalate texts ++ [']']))
  | obj {members : List (String × Json)} {texts : List (List Char)} (each : List.Forall₂ ShowsMember members texts) :
      Shows (.obj members) ('\x7b' :: ([','].intercalate texts ++ ['\x7d']))

inductive ShowsMember : String × Json → List Char → Prop
  | member {key : String} {v : Json} {name cs : List Char} (named : Shows (.str key) name) (value : Shows v cs) :
      ShowsMember (key, v) (name ++ ':' :: cs)

end

theorem shows_intChars (n : Int) : Shows (.int n) (intChars n) := by
  have value (n : Nat) : ofDigits (decimal n) = n := ofDigits_decimal n
  cases n with
  | ofNat n =>
    have read := readMagnitude?_natChars false n .nil
    rw [List.append_nil] at read
    exact .int (readLiteral?_of_magnitude read) rfl rfl (congrArg Int.ofNat (value n).symm)
  | negSucc n =>
    have read := readMagnitude?_natChars true (n + 1) .nil
    rw [List.append_nil] at read
    refine .int read rfl rfl ?_
    rw [if_pos rfl, value]
    rfl

theorem shows_stringChars (s : String) : Shows (.str s) (stringChars s) := by
  have quoted := length_lt_stringChars s
  rw [stringChars, List.length_cons] at quoted
  have read := @readString?_stringChars ((s.toList.flatMap escape ++ ['\x22']).length + 1) s [] (by omega)
  rw [List.append_nil] at read
  exact .str read

def memberTexts (members : List (String × Json)) : List (List Char) :=
  members.map fun m => stringChars m.1 ++ ':' :: m.2.chars

theorem itemChars_eq (v : Json) (items : List Json) :
    v.chars ++ itemChars items = [','].intercalate ((v :: items).map chars) ++ [']'] := by
  induction items generalizing v with
  | nil => rw [itemChars, List.map_singleton, List.intercalate_singleton]
  | cons w items ih =>
    simp only [itemChars, ih, List.map_cons, List.intercalate_cons_cons, List.append_assoc, List.cons_append,
      List.nil_append]

theorem memberChars_eq (m : String × Json) (members : List (String × Json)) :
    stringChars m.1 ++ ':' :: (m.2.chars ++ memberChars members) =
      [','].intercalate (memberTexts (m :: members)) ++ ['\x7d'] := by
  induction members generalizing m with
  | nil =>
    rw [memberChars, memberTexts, List.map_singleton, List.intercalate_singleton, List.append_assoc, List.cons_append]
  | cons n members ih =>
    obtain ⟨key, v⟩ := n
    simp only [memberChars, ih (key, v), memberTexts, List.map_cons, List.intercalate_cons_cons, List.append_assoc,
      List.cons_append, List.nil_append]

mutual

/-- The text of a value shows it, whatever its strings hold and however large its numbers are. -/
theorem shows_chars : (v : Json) → Shows v v.chars
  | .null => .null
  | .bool true => .yes
  | .bool false => .no
  | .int n => by
    rw [chars]
    exact shows_intChars n
  | .float x => by
    rw [chars]
    cases found : x.value? with
    | none =>
      rw [Double.chars?, found]
      exact .infinite found
    | some v =>
      obtain ⟨cs, l, shown, read, sign, nearest⟩ := Double.exists_literal found
      rw [shown]
      exact .float found read sign nearest
  | .str s => by
    rw [chars]
    exact shows_stringChars s
  | .arr [] => .arr .nil
  | .arr (v :: items) => by
    rw [chars, itemChars_eq]
    exact .arr (.cons (shows_chars v) (shows_items items))
  | .obj [] => .obj .nil
  | .obj ((key, v) :: members) => by
    rw [chars, memberChars_eq (key, v)]
    exact .obj (.cons (.member (shows_stringChars key) (shows_chars v)) (shows_members members))

theorem shows_items : (items : List Json) → List.Forall₂ Shows items (items.map chars)
  | [] => .nil
  | v :: items => .cons (shows_chars v) (shows_items items)

theorem shows_members : (members : List (String × Json)) → List.Forall₂ ShowsMember members (memberTexts members)
  | [] => .nil
  | (key, v) :: members => .cons (.member (shows_stringChars key) (shows_chars v)) (shows_members members)

end

end Bookings.Json
