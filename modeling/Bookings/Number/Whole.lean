namespace Bookings.Whole

def digit? (c : Char) : Option Nat :=
  if 48 ≤ c.toNat && c.toNat ≤ 57 then some (c.toNat - 48) else none

def readFrom? (n : Nat) : List Char → Option Nat
  | [] => some n
  | c :: rest =>
    match digit? c with
    | some d => readFrom? (n * 10 + d) rest
    | none => none

def magnitude? : List Char → Option Nat
  | [] => none
  | cs => readFrom? 0 cs

def unsigned? (cs : List Char) : Option Nat :=
  match cs with
  | '+' :: rest => magnitude? rest
  | cs => magnitude? cs

def signed? (cs : List Char) : Option Int :=
  match cs with
  | '-' :: rest => (magnitude? rest).map fun n => -(n : Int)
  | cs => (unsigned? cs).map fun n => (n : Int)

def below? (bound : Nat) (s : String) : Option Nat :=
  (unsigned? s.toList).filter fun n => n < bound

def int32? (s : String) : Option Int32 :=
  ((signed? s.toList).filter fun n => -2147483648 ≤ n && n < 2147483648).map Int32.ofInt

end Bookings.Whole
