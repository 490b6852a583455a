import Bookings.Number.Binary

namespace Bookings

/-- A literal by its parts: the digits before and behind the point and the exponent, if written. -/
structure NumberLiteral where
  negative : Bool
  whole : List Nat
  fraction : Option (List Nat)
  exponent : Option Int
deriving DecidableEq

inductive Numeral where
  | int (n : Int)
  | float (x : Double)
deriving DecidableEq

namespace Numeral

def maxSignificand : Nat := 0xFFFFFFFFFFFFFFFF

/-- Appends digits to a significand while it fits; returns it with the number of digits taken and
the number of digits left out. -/
def takeDigits (significand taken : Nat) : List Nat → Nat × Nat × Nat
  | [] => (significand, taken, 0)
  | d :: rest =>
    if significand * 10 + d ≤ maxSignificand then takeDigits (significand * 10 + d) (taken + 1) rest
    else (significand, taken, rest.length + 1)

def maxPower : Nat := 308

def powerOfTen (n : Nat) : Double := Double.ofNat (Nat.pow 10 n)

def finite? (x : Double) : Option Double :=
  if x.isFinite then some x else none

/-- The number `x * 10 ^ exponent`, if finite; `steps` bounds the divisions by `10 ^ 308`, after
two of which every significand has become zero. -/
def scale? : (steps : Nat) → (x : Double) → (exponent : Int) → Option Double
  | 0, x, _ => some x
  | steps + 1, x, exponent =>
    if exponent.natAbs ≤ maxPower then
      if 0 ≤ exponent then finite? (x.mul (powerOfTen exponent.natAbs))
      else some (x.div (powerOfTen exponent.natAbs))
    else if x.isZero then some x
    else if 0 ≤ exponent then none
    else scale? steps (x.div (powerOfTen maxPower)) (exponent + maxPower)

def integer? (negative : Bool) (n : Nat) : Option Int :=
  if negative then if 0 < n ∧ n ≤ 0x8000000000000000 then some (-n) else none
  else if n ≤ maxSignificand then some n else none

def ofLiteral? (l : NumberLiteral) : Option Numeral :=
  let (head, _, dropped) := takeDigits 0 0 l.whole
  let (significand, taken, _) := takeDigits head 0 (l.fraction.getD [])
  match (if l.fraction = none ∧ l.exponent = none ∧ dropped = 0 then integer? l.negative head
      else none) with
  | some n => some (.int n)
  | none =>
    (scale? 4 (Double.ofNat significand) (dropped - taken + l.exponent.getD 0)).map fun x =>
      .float (if l.negative then x.neg else x)

def toSingle : Numeral → Single
  | .int n => Single.ofInt n
  | .float x => Single.ofDouble x

end Numeral

end Bookings
