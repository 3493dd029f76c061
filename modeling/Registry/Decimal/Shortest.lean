/-!
# Shortest decimals

The decimal with the fewest digits that reads back as a given binary64 number, and the nearest of
those; and the binary64 number nearest to a given decimal. A positive number is `m * 2^q`; the reals
that round to it are those from halfway to its lower neighbour to halfway to its upper one, ends
included when `m` is even.
-/

namespace Registry

/-- The number `digits * 10^exponent`. -/
structure Decimal where
  digits : Nat
  exponent : Int
  deriving DecidableEq, Repr

namespace Decimal

def digitCount (n : Nat) : Nat := (Nat.toDigits 10 n).length

/-- A positive fraction `top / bottom` beside the two ends of the interval that rounds to it, all
over one denominator. -/
structure Interval where
  low : Nat
  mid : Nat
  high : Nat
  bottom : Nat
  closed : Bool

/-- The interval of the number `m * 2^q`; the lower gap is half as wide when `narrow`. -/
def Interval.ofBinary (m : Nat) (q : Int) (narrow : Bool) : Interval :=
  let scale := Nat.pow 2 (q - 2).toNat
  { low := (4 * m - (if narrow then 1 else 2)) * scale
    mid := 4 * m * scale
    high := (4 * m + 2) * scale
    bottom := Nat.pow 2 (2 - q).toNat
    closed := m % 2 == 0 }

def Interval.contains (i : Interval) (d : Nat) (p : Int) : Bool :=
  let v := d * Nat.pow 10 p.toNat * i.bottom
  let unit := Nat.pow 10 (-p).toNat
  if i.closed then i.low * unit ≤ v && v ≤ i.high * unit
  else i.low * unit < v && v < i.high * unit

/-- The point of the grid `10^p` in the interval that is nearest to its middle; of two equally near
ones the even one. -/
def Interval.onGrid? (i : Interval) (p : Int) : Option Nat :=
  let top := i.mid * Nat.pow 10 (-p).toNat
  let unit := i.bottom * Nat.pow 10 p.toNat
  let d := top / unit
  match i.contains d p, i.contains (d + 1) p with
  | true, true =>
    let below := top % unit
    let above := unit - below
    if below < above then some d else if above < below then some (d + 1)
    else some (if d % 2 == 0 then d else d + 1)
  | true, false => some d
  | false, true => some (d + 1)
  | false, false => none

/-- The exponent of the first power of ten above the middle of the interval. -/
def Interval.magnitude (i : Interval) : Int :=
  if i.bottom ≤ i.mid then Int.ofNat (digitCount (i.mid / i.bottom))
  else
    let zeros := digitCount i.bottom - digitCount i.mid
    if i.mid * Nat.pow 10 zeros < i.bottom then -Int.ofNat zeros else 1 - Int.ofNat zeros

/-- Moves trailing zeros of the digits into the exponent, at most `fuel` of them. -/
def stripZeros : Nat → Decimal → Decimal
  | 0, d => d
  | fuel + 1, d =>
    if d.digits ≠ 0 ∧ d.digits % 10 = 0 then stripZeros fuel ⟨d.digits / 10, d.exponent + 1⟩ else d

/-- The shortest decimal in the interval: the first grid, from coarse to fine, that has a point
there. Seventeen digits always suffice. -/
def Interval.shortest (i : Interval) : Decimal :=
  let m := i.magnitude
  let found := (List.range 18).findSome? fun (n : Nat) =>
    let p : Int := m - n
    (i.onGrid? p).bind fun d => if d = 0 then none else some (Decimal.mk d p)
  stripZeros 18 (found.getD ⟨0, 0⟩)

def exponentUnit : Nat := 0x10000000000000

def signUnit : Nat := 0x8000000000000000

def shortest (x : Float) : Decimal :=
  let bits := x.toBits.toNat % signUnit
  let fraction := bits % exponentUnit
  let exponent : Nat := bits / exponentUnit
  if bits = 0 then ⟨0, 0⟩
  else if exponent = 0 then (Interval.ofBinary fraction (-1074) false).shortest
  else (Interval.ofBinary (exponentUnit + fraction) (Int.ofNat exponent - 1075)
    (fraction == 0 && 1 < exponent)).shortest

def signBit (x : Float) : Bool := signUnit ≤ x.toBits.toNat

/-- The binary64 number nearest to a decimal. -/
def toFloat (d : Decimal) : Float :=
  let size : Int := digitCount d.digits + d.exponent
  if d.digits = 0 ∨ size < -400 then 0.0
  else if 400 < size then Float.ofBits 0x7ff0000000000000
  else if 0 ≤ d.exponent then Float.ofScientific (d.digits * Nat.pow 10 d.exponent.toNat) false 0
  else Float.ofScientific d.digits true (-d.exponent).toNat

def digitChars (n : Nat) : List Char := Nat.toDigits 10 n

def ofDigits (cs : List Char) : Nat := cs.foldl (fun n c => 10 * n + (c.toNat - 48)) 0

/-- A decimal in positional notation, without a point when it is whole. -/
def positional (d : Decimal) : List Char :=
  let ds := digitChars d.digits
  let point : Int := ds.length + d.exponent
  if 0 ≤ d.exponent then ds ++ List.replicate (if d.digits = 0 then 0 else d.exponent.toNat) '0'
  else if 0 < point then ds.take point.toNat ++ '.' :: ds.drop point.toNat
  else '0' :: '.' :: List.replicate (-point).toNat '0' ++ ds

end Decimal

end Registry
