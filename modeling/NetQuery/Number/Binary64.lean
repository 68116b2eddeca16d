import NetQuery.Arithmetic

namespace NetQuery

/-- `finite negative mantissa scale` is `± mantissa · 2^scale · 2^-1074`. The scale is the least
that keeps the mantissa below 2⁵³, so each number has one form. -/
inductive Binary64 where
  | nan
  | infinite (negative : Bool)
  | finite (negative : Bool) (mantissa scale : Nat)
  deriving DecidableEq, Repr

namespace Binary64

/-- The exponent of the smallest positive number: 2^-1074 is one unit. -/
def unitExponent : Nat := 1074

/-- The greatest scale; beyond it lie the infinities. -/
def maxScale : Nat := 2045

def zero : Binary64 := finite false 0 0

def one : Binary64 := finite false (2 ^ (52 : Nat)) 1022

/-- The quotient to the nearest whole number, a half to the even one. -/
def divNearest (a b : Nat) : Nat :=
  let q := a / b
  let r := a % b
  if 2 * r < b then q else if b < 2 * r then q + 1 else q + q % 2

/-- The number nearest to `± num / den` units. -/
def ofUnits (negative : Bool) (num den : Nat) : Binary64 :=
  let scale := (num / den).log2 + 1 - 53
  let mantissa := divNearest num (den * 2 ^ scale)
  let (mantissa, scale) :=
    if mantissa < 2 ^ (53 : Nat) then (mantissa, scale) else (2 ^ (52 : Nat), scale + 1)
  if scale ≤ maxScale then finite negative mantissa scale else infinite negative

/-- The number nearest to `± num / den`. -/
def ofRatio (negative : Bool) (num den : Nat) : Binary64 :=
  ofUnits negative (num * 2 ^ unitExponent) den

def ofInt (n : Int) : Binary64 :=
  ofRatio (n < 0) n.natAbs 1

def ofNat (n : Nat) : Binary64 :=
  ofRatio false n 1

/-- Beyond this power of ten every number is infinite, and below its inverse, zero. -/
def extremeExponent : Nat := 400

/-- The number nearest to `± digits · 10^exponent`. -/
def ofDecimal (negative : Bool) (digits : Nat) (exponent : Int) : Binary64 :=
  if digits = 0 then finite negative 0 0
  else if (extremeExponent : Int) < exponent then infinite negative
  else if exponent + (Nat.toDigits 10 digits).length < -(extremeExponent : Int) then
    finite negative 0 0
  else if 0 ≤ exponent then ofRatio negative (digits * 10 ^ exponent.toNat) 1
  else ofRatio negative digits (10 ^ (-exponent).toNat)

def isFinite : Binary64 → Bool
  | finite .. => true
  | _ => false

def neg : Binary64 → Binary64
  | nan => nan
  | infinite negative => infinite (!negative)
  | finite negative mantissa scale => finite (!negative) mantissa scale

/-- The place on the line in units. The infinities stand where the next power of two would. -/
def position? : Binary64 → Option Int
  | nan => none
  | infinite negative => some (if negative then -2 ^ (53 + maxScale) else 2 ^ (53 + maxScale))
  | finite negative mantissa scale =>
    let n : Int := mantissa * 2 ^ scale
    some (if negative then -n else n)

/-- Compares positions; nothing compares with what has none. -/
def compareBy (rel : Int → Int → Bool) (a b : Binary64) : Bool :=
  match a.position?, b.position? with
  | some x, some y => rel x y
  | _, _ => false

def lt : Binary64 → Binary64 → Bool := compareBy fun x y => x < y

def le : Binary64 → Binary64 → Bool := compareBy fun x y => x ≤ y

/-- Equality of numbers: the two zeros are equal, and `nan` equals nothing. -/
def eq : Binary64 → Binary64 → Bool := compareBy fun x y => x == y

/-- The product of two finite numbers, rounded once; other operands give `nan`. -/
def mul : Binary64 → Binary64 → Binary64
  | finite n₁ m₁ s₁, finite n₂ m₂ s₂ =>
    ofUnits (n₁ != n₂) (m₁ * m₂ * 2 ^ (s₁ + s₂)) (2 ^ unitExponent)
  | _, _ => nan

/-- The quotient of a number by a finite one other than zero, rounded once; other divisors give
`nan`. -/
def div : Binary64 → Binary64 → Binary64
  | finite n₁ m₁ s₁, finite n₂ m₂ s₂ =>
    if m₂ = 0 then nan
    else ofUnits (n₁ != n₂) (m₁ * 2 ^ s₁ * 2 ^ unitExponent) (m₂ * 2 ^ s₂)
  | infinite n₁, finite n₂ m₂ _ => if m₂ = 0 then nan else infinite (n₁ != n₂)
  | _, _ => nan

def floor? : Binary64 → Option Int
  | finite negative mantissa scale =>
    let n : Int := mantissa * 2 ^ scale
    some (Int.fdiv (if negative then -n else n) (2 ^ unitExponent))
  | _ => none

@[simp] theorem position?_nan : position? nan = none := rfl

@[simp] theorem compareBy_nan_left (rel : Int → Int → Bool) (b : Binary64) :
    compareBy rel nan b = false := rfl

@[simp] theorem compareBy_nan_right (rel : Int → Int → Bool) (a : Binary64) :
    compareBy rel a nan = false := by
  cases h : a.position? <;> simp [compareBy, h]

theorem eq_self_of_ne_nan {x : Binary64} (h : x ≠ nan) : eq x x = true := by
  cases x <;> simp_all [eq, compareBy, position?]

theorem eq_comm (a b : Binary64) : eq a b = eq b a := by
  unfold eq compareBy
  cases a.position? <;> cases b.position? <;> simp [Bool.beq_comm]

example : ofInt 1 = one := by decide +kernel
example : eq (finite true 0 0) zero = true := by decide
example : ofDecimal false 1 400 = infinite false := by decide +kernel
example : ofDecimal false 5 (-324) = finite false 1 0 := by decide +kernel
example : ofInt 9007199254740993 = ofInt 9007199254740992 := by decide +kernel

end Binary64

end NetQuery
