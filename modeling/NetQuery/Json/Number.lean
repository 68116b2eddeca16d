import NetQuery.Json.Basic
import NetQuery.Number.Integer

namespace NetQuery.Json

open NetQuery.Number

structure NumberText where
  negative : Bool
  whole : List Char
  fraction : List Char
  /-- The sign of the exponent and its digits. -/
  exponent : Option (Bool × List Char)

/-- Leading digits and how many places to the left they stand. -/
structure Leading where
  digits : Nat
  places : Int

/-- Takes a digit unless the number would outgrow 64 bits. -/
def Leading.take? (l : Leading) (c : Char) : Option Leading :=
  let n := 10 * l.digits + digitValue c
  if n ≤ maxUInt64 then some ⟨n, l.places⟩ else none

/-- The digits before the point: from the first that does not fit, only the places count. -/
def Leading.ofWhole (l : Leading) : List Char → Leading
  | [] => l
  | c :: rest =>
    match l.take? c with
    | some l => l.ofWhole rest
    | none => ⟨l.digits, l.places + (rest.length + 1)⟩

def Leading.addFraction (l : Leading) : List Char → Leading
  | [] => l
  | c :: rest =>
    match l.take? c with
    | some l => { l with places := l.places - 1 }.addFraction rest
    | none => l

/-- The greatest power of ten of one scaling step. -/
def greatestStep : Nat := 308

def powerOfTen (n : Nat) : Binary64 :=
  .ofDecimal false 1 n

/-- The digits scaled by a power of ten; `none` beyond the finite numbers. -/
def Leading.scaled? (l : Leading) (exponent : Int) : Option Binary64 :=
  let x := Binary64.ofNat l.digits
  let n := exponent.natAbs
  if 0 ≤ exponent then
    if l.digits = 0 then some x
    else if n ≤ greatestStep then
      let y := x.mul (powerOfTen n)
      if y.isFinite then some y else none
    else none
  else if n ≤ greatestStep then some (x.div (powerOfTen n))
  else if n ≤ 2 * greatestStep then
    some ((x.div (powerOfTen greatestStep)).div (powerOfTen (n - greatestStep)))
  else some .zero

/-- The greatest exponent that is told apart from an endless one. -/
def greatestExponent : Nat := 2147483647

def NumberText.float? (t : NumberText) : Option Binary64 :=
  let leading := (Leading.ofWhole ⟨0, 0⟩ t.whole).addFraction t.fraction
  let magnitude? := match t.exponent with
    | none => leading.scaled? leading.places
    | some (negative, digits) =>
      let n := digitsFrom 0 digits
      if n ≤ greatestExponent then
        leading.scaled? (leading.places + (if negative then -(n : Int) else n))
      else if leading.digits = 0 || negative then some .zero
      else none
  magnitude?.map fun x => if t.negative then x.neg else x

/-- The value of a number as written: whole when it is written so and fits 64 bits. Minus zero is
no whole number. -/
def NumberText.value? (t : NumberText) : Option Json :=
  let n := digitsFrom 0 t.whole
  if t.fraction.isEmpty && t.exponent.isNone then
    if !t.negative && n ≤ maxUInt64 then some (int n)
    else if t.negative && n ≠ 0 && minInt64 ≤ -(n : Int) then some (int (-n))
    else t.float?.map float
  else t.float?.map float

end NetQuery.Json
