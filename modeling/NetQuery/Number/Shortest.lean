import NetQuery.Number.Binary64
import NetQuery.Number.Integer

namespace NetQuery.Number

structure Decimal where
  digits : Nat
  exponent : Int
  deriving DecidableEq, Repr

/-- The numbers that round to a given one, in quarters of a unit: from `low` to `high`, around
`mid`. The ends belong to it when `closed`. -/
structure RoundingInterval where
  low : Nat
  mid : Nat
  high : Nat
  closed : Bool

/-- The interval of `mantissa · 2^scale` units. Below a power of two the numbers lie twice as
dense. -/
def RoundingInterval.of (mantissa scale : Nat) : RoundingInterval :=
  let below := if mantissa = 2 ^ (52 : Nat) ∧ 0 < scale then 1 else 2
  { low := (4 * mantissa - below) * 2 ^ scale
    mid := 4 * mantissa * 2 ^ scale
    high := (4 * mantissa + 2) * 2 ^ scale
    closed := mantissa % 2 == 0 }

def RoundingInterval.holds (i : RoundingInterval) (n : Nat) : Bool :=
  if i.closed then i.low ≤ n && n ≤ i.high else i.low < n && n < i.high

def RoundingInterval.scaleBy (i : RoundingInterval) (k : Nat) : RoundingInterval :=
  { i with low := i.low * k, mid := i.mid * k, high := i.high * k }

def quartersInOne : Nat := 4 * 2 ^ Binary64.unitExponent

/-- Digits of the smallest positive number after the point. -/
def finestPlace : Nat := 324

/-- The power of ten just above the number, as an exponent. -/
def RoundingInterval.magnitude (i : RoundingInterval) : Int :=
  (natDigits (i.mid * 10 ^ finestPlace / quartersInOne)).length - (finestPlace : Int)

/-- The nearest multiple of `10^place` that lies in the interval. Of two neighbours equally near,
the even one. -/
def RoundingInterval.nearestAt? (i : RoundingInterval) (place : Int) : Option Decimal :=
  let step := quartersInOne * 10 ^ place.toNat
  let i := i.scaleBy (10 ^ (-place).toNat)
  let lower := i.mid / step
  let upper := lower + 1
  let best := Binary64.divNearest i.mid step
  let other := if best = lower then upper else lower
  if i.holds (best * step) then some ⟨best, place⟩
  else if i.holds (other * step) then some ⟨other, place⟩
  else none

def Decimal.trimmed (d : Decimal) : Decimal :=
  let zeros := ((natDigits d.digits).reverse.takeWhile (· == '0')).length
  if d.digits = 0 then ⟨0, 0⟩ else ⟨d.digits / 10 ^ zeros, d.exponent + zeros⟩

/-- The shortest decimal of `mantissa · 2^scale` units. Seventeen digits always suffice. -/
def shortest (mantissa scale : Nat) : Decimal :=
  if mantissa = 0 then ⟨0, 0⟩
  else
    let i := RoundingInterval.of mantissa scale
    let places := (List.range 17).map fun (n : Nat) => i.magnitude - 1 - n
    match places.findSome? i.nearestAt? with
    | some d => d.trimmed
    | none => ⟨0, 0⟩

example : shortest 1 0 = ⟨5, -324⟩ := by decide +kernel
example : shortest (2 ^ (52 : Nat)) 1022 = ⟨1, 0⟩ := by decide +kernel
example : shortest 2 0 = ⟨1, -323⟩ := by decide +kernel

end NetQuery.Number
