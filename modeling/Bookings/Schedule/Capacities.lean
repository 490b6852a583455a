import Bookings.Schedule.Error

namespace Bookings

structure Capacities where
  digits : List (Fin 10)
deriving DecidableEq

namespace Capacities

def digit? (c : Char) : Option (Fin 10) :=
  if h : 48 ≤ c.toNat ∧ c.toNat ≤ 57 then some ⟨c.toNat - 48, by omega⟩ else none

def digitChar (d : Fin 10) : Char := Char.ofNat (d.val + 48)

def readFrom (index : Nat) (read : List (Fin 10)) : List Char → Except ScheduleError Capacities
  | [] => .ok ⟨read.reverse⟩
  | c :: rest =>
    match digit? c with
    | some d => readFrom (index + 1) (d :: read) rest
    | none => .error (.notADigit index c)

def parse (s : String) : Except ScheduleError Capacities :=
  readFrom 0 [] s.toList

def text (c : Capacities) : String :=
  String.ofList (c.digits.map digitChar)

def size (c : Capacities) : Nat := c.digits.length

def isEmpty (c : Capacities) : Bool := c.digits.isEmpty

def at? (c : Capacities) (timeslot : UInt32) : Option Nat :=
  c.digits[timeslot.toNat]?.map Fin.val

def toList (c : Capacities) : List (UInt32 × Nat) :=
  c.digits.zipIdx.map fun (d, i) => (UInt32.ofNat i, d.val)

end Capacities

end Bookings
