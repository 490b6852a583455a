namespace Bookings

/-- How many bits of a pattern hold the fraction and how many the exponent. -/
structure BinaryFormat where
  fractionBits : Nat
  exponentBits : Nat

namespace BinaryFormat

def single : BinaryFormat := ⟨23, 8⟩

def double : BinaryFormat := ⟨52, 11⟩

/-- The pattern of positive infinity; the patterns below it are the finite values from zero on. -/
def infinity (f : BinaryFormat) : Nat := (Nat.pow 2 f.exponentBits - 1) * Nat.pow 2 f.fractionBits

def signBit (f : BinaryFormat) : Nat := Nat.pow 2 (f.exponentBits + f.fractionBits)

def minExponent (f : BinaryFormat) : Int := 2 - Nat.pow 2 (f.exponentBits - 1) - f.fractionBits

end BinaryFormat

/-- The number `(-1) ^ negative * significand * 2 ^ exponent`. -/
structure Dyadic where
  negative : Bool
  significand : Nat
  exponent : Int
deriving DecidableEq

def floorLog2 (num den : Nat) : Int :=
  let e : Int := (num.log2 : Int) - den.log2
  if num * Nat.pow 2 (-e).toNat < den * Nat.pow 2 e.toNat then e - 1 else e

/-- The integer nearest to `num / den`, the even one of two. -/
def roundQuotient (num den : Nat) : Nat :=
  let q := num / den
  let twice := 2 * (num % den)
  if twice < den then q
  else if den < twice then q + 1
  else q + q % 2

namespace BinaryFormat

/-- The pattern nearest to `num / den`, infinity where none is near enough. -/
def round (f : BinaryFormat) (num den : Nat) : Nat :=
  if num = 0 then 0
  else
    let q := max f.minExponent (floorLog2 num den - f.fractionBits)
    let m := roundQuotient (num * Nat.pow 2 (-q).toNat) (den * Nat.pow 2 q.toNat)
    min ((q - f.minExponent).toNat * Nat.pow 2 f.fractionBits + m) f.infinity

def signed (f : BinaryFormat) (negative : Bool) (magnitude : Nat) : Nat :=
  if negative then f.signBit + magnitude else magnitude

def value? (f : BinaryFormat) (bits : Nat) : Option Dyadic :=
  let magnitude := bits % f.signBit
  let fraction := magnitude % Nat.pow 2 f.fractionBits
  let step := magnitude / Nat.pow 2 f.fractionBits
  if f.infinity ≤ magnitude then none
  else if step = 0 then some ⟨f.signBit ≤ bits, fraction, f.minExponent⟩
  else some ⟨f.signBit ≤ bits, Nat.pow 2 f.fractionBits + fraction, f.minExponent + step - 1⟩

def ofDyadic (f : BinaryFormat) (x : Dyadic) : Nat :=
  f.signed x.negative
    (f.round (x.significand * Nat.pow 2 x.exponent.toNat) (Nat.pow 2 (-x.exponent).toNat))

end BinaryFormat

structure Single where
  bits : UInt32
deriving DecidableEq

structure Double where
  bits : UInt64
deriving DecidableEq

namespace Double

def ofMagnitude (magnitude : Nat) : Double := ⟨UInt64.ofNat magnitude⟩

def ofNat (n : Nat) : Double := ofMagnitude (BinaryFormat.double.round n 1)

def value? (x : Double) : Option Dyadic := BinaryFormat.double.value? x.bits.toNat

def isFinite (x : Double) : Bool := x.value?.isSome

def neg (x : Double) : Double := ⟨x.bits ^^^ 0x8000000000000000⟩

def isZero (x : Double) : Bool := x.bits.toNat % BinaryFormat.double.signBit == 0

def mul (x y : Double) : Double :=
  match x.value?, y.value? with
  | some a, some b =>
    ofMagnitude (BinaryFormat.double.ofDyadic
      ⟨false, a.significand * b.significand, a.exponent + b.exponent⟩)
  | _, _ => ofMagnitude BinaryFormat.double.infinity

def div (x y : Double) : Double :=
  match x.value?, y.value? with
  | some a, some b =>
    let e := a.exponent - b.exponent
    ofMagnitude (BinaryFormat.double.round
      (a.significand * Nat.pow 2 e.toNat) (b.significand * Nat.pow 2 (-e).toNat))
  | _, _ => ofMagnitude BinaryFormat.double.infinity

end Double

namespace Single

def zero : Single := ⟨0⟩

def value? (x : Single) : Option Dyadic := BinaryFormat.single.value? x.bits.toNat

def isFinite (x : Single) : Bool := x.value?.isSome

def ofInt (n : Int) : Single :=
  ⟨UInt32.ofNat (BinaryFormat.single.signed (n < 0) (BinaryFormat.single.round n.natAbs 1))⟩

def ofDouble (x : Double) : Single :=
  match x.value? with
  | some v => ⟨UInt32.ofNat (BinaryFormat.single.ofDyadic v)⟩
  | none => ⟨UInt32.ofNat
      (BinaryFormat.single.signed (BinaryFormat.double.signBit ≤ x.bits.toNat)
        BinaryFormat.single.infinity)⟩

def toDouble? (x : Single) : Option Double :=
  x.value?.map fun v => ⟨UInt64.ofNat (BinaryFormat.double.ofDyadic v)⟩

end Single

end Bookings
