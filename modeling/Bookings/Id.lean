import Std.Data.ExtTreeMap

namespace Bookings

structure Id where
  value : Fin 0x100000000000000000000000000000000
deriving DecidableEq

namespace Id

def ofNat (n : Nat) : Id := ⟨Fin.ofNat 0x100000000000000000000000000000000 n⟩

instance : Inhabited Id := ⟨ofNat 0⟩

instance : Ord Id := ⟨compareOn (·.value)⟩

instance : Std.TransOrd Id := inferInstanceAs (Std.TransCmp (compareOn Id.value))

instance : Std.LawfulEqOrd Id where
  eq_of_compare {a b} h := by
    have same : compare a.value b.value = .eq := h
    cases a
    cases b
    exact congrArg Id.mk (Std.LawfulEqCmp.eq_of_compare same)

def letter (d : Nat) : Char :=
  Char.ofNat <|
    if d < 10 then d + 48
    else if d < 18 then d + 55
    else if d < 20 then d + 56
    else if d < 22 then d + 57
    else if d < 27 then d + 58
    else d + 59

def digit? (c : Char) : Option Nat :=
  let n := c.toUpper.toNat
  if n < 48 then none
  else if n ≤ 57 then some (n - 48)
  else if n < 65 then none
  else if n ≤ 72 then some (n - 55)
  else if n < 74 then none
  else if n ≤ 75 then some (n - 56)
  else if n < 77 then none
  else if n ≤ 78 then some (n - 57)
  else if n < 80 then none
  else if n ≤ 84 then some (n - 58)
  else if n < 86 then none
  else if n ≤ 90 then some (n - 59)
  else none

def digitsBefore (rest : List Char) : (count n : Nat) → List Char
  | 0, _ => rest
  | count + 1, n => digitsBefore (letter (n % 32) :: rest) count (n / 32)

def chars (i : Id) : List Char :=
  digitsBefore [] 26 i.value.val

def text (i : Id) : String :=
  String.ofList i.chars

def readDigits? (n : Nat) : List Char → Option Nat
  | [] => some n
  | c :: rest =>
    match digit? c with
    | some d => readDigits? (n * 32 + d) rest
    | none => none

def ofChars? (cs : List Char) : Option Id :=
  if cs.length = 26 then (readDigits? 0 cs).map ofNat else none

/-- Reads 26 digits; the bits above the lowest 128 are dropped. -/
def ofText? (s : String) : Option Id :=
  ofChars? s.toList

end Id

abbrev IdMap (β : Type) := Std.ExtTreeMap Id β

end Bookings
