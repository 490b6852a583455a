import Bookings.Number.Binary

namespace Bookings

structure Decimal where
  digits : Nat
  exponent : Int
deriving DecidableEq

namespace Shortest

/-- The open interval of the quotients `x / den` that round to one number, its ends included where
`closed` says so. -/
structure Interval where
  low : Nat
  value : Nat
  high : Nat
  den : Nat
  closed : Bool

def interval (m : Nat) (q : Int) : Interval :=
  let narrow := m == 0x10000000000000 && q != BinaryFormat.double.minExponent
  let unit := Nat.pow 2 q.toNat
  ⟨(4 * m - if narrow then 1 else 2) * unit, 4 * m * unit, (4 * m + 2) * unit,
    4 * Nat.pow 2 (-q).toNat, m % 2 == 0⟩

def Interval.holds (i : Interval) (n : Nat) (e : Int) : Bool :=
  let x := n * Nat.pow 10 e.toNat * i.den
  let scale := Nat.pow 10 (-e).toNat
  if i.closed then i.low * scale ≤ x && x ≤ i.high * scale
  else i.low * scale < x && x < i.high * scale

/-- The neighbour of the value on the grid of multiples of `10 ^ e` that lies in the interval, the
nearer of two. -/
def Interval.onGrid? (i : Interval) (e : Int) : Option Nat :=
  let num := i.value * Nat.pow 10 (-e).toNat
  let den := i.den * Nat.pow 10 e.toNat
  let below := num / den
  let nearest := roundQuotient num den
  if i.holds nearest e then some nearest
  else if i.holds below e then some below
  else if i.holds (below + 1) e then some (below + 1)
  else none

def Interval.search (i : Interval) : (tries : Nat) → (e : Int) → Decimal
  | 0, e => ⟨i.value * Nat.pow 10 (-e).toNat / (i.den * Nat.pow 10 e.toNat), e⟩
  | tries + 1, e =>
    match i.onGrid? e with
    | some n => ⟨n, e⟩
    | none => i.search tries (e - 1)

def startExponent (m : Nat) (q : Int) : Int :=
  (m.log2 + 1 + q) * 30103 / 100000 + 1

def decimal (m : Nat) (q : Int) : Decimal :=
  (interval m q).search 20 (startExponent m q)

end Shortest

/-- Plain notation for magnitudes from `0.00001` up to below `10 ^ 16`, always with a fraction;
others in scientific notation with a sign on every exponent. -/
structure DecimalLayout where
  leastPlain : Int
  mostPlain : Int

namespace DecimalLayout

def standard : DecimalLayout := ⟨-5, 15⟩

def zeros (n : Nat) : List Char := List.replicate n '0'

def plain (digits : List Char) (exponent : Int) : List Char :=
  let point : Int := digits.length + exponent
  if 0 ≤ exponent then digits ++ zeros exponent.toNat ++ ['.', '0']
  else if 0 < point then digits.take point.toNat ++ '.' :: digits.drop point.toNat
  else '0' :: '.' :: (zeros (-point).toNat ++ digits)

def scientific (digits : List Char) (exponent : Int) : List Char :=
  let power : Int := digits.length + exponent - 1
  let fraction := match digits.tail with
    | [] => []
    | rest => '.' :: rest
  digits.take 1 ++ fraction ++
    'e' :: (if power < 0 then '-' else '+') :: Nat.toDigits 10 power.natAbs

def chars (l : DecimalLayout) (d : Decimal) : List Char :=
  let digits := Nat.toDigits 10 d.digits
  let power : Int := digits.length + d.exponent - 1
  if l.leastPlain ≤ power && power ≤ l.mostPlain then plain digits d.exponent
  else scientific digits d.exponent

end DecimalLayout

def Double.chars? (x : Double) : Option (List Char) :=
  x.value?.map fun v =>
    let magnitude :=
      if v.significand = 0 then ['0', '.', '0']
      else DecimalLayout.standard.chars (Shortest.decimal v.significand v.exponent)
    if v.negative then '-' :: magnitude else magnitude

end Bookings
