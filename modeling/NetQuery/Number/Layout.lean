import NetQuery.Number.Shortest

namespace NetQuery.Number

/-- What a text of a number decides beyond its digits. The point stands after `point` digits; the
text is positional when `point` lies from `leastPoint` to `greatestPoint`, always when these are
`none`. -/
structure NumberLayout where
  positional : Option (Int × Int)
  /-- What follows a positional text without a fraction. -/
  wholeMark : String

/-- Numbers in records and in JSON text: positional from 10⁻⁵ up to 10¹⁶, and always with a point
or an exponent. -/
def recordLayout : NumberLayout := ⟨some (-4, 16), ".0"⟩

/-- Numbers in queries and messages: positional, and whole numbers without a point. -/
def plainLayout : NumberLayout := ⟨none, ""⟩

/-- The digits with the point after the first `point` of them. -/
def positionalText (wholeMark : String) (digits : List Char) (point : Int) : String :=
  if point ≤ 0 then
    String.ofList ('0' :: '.' :: List.replicate (-point).toNat '0' ++ digits)
  else if digits.length ≤ point.toNat then
    String.ofList (digits ++ List.replicate (point.toNat - digits.length) '0') ++ wholeMark
  else
    String.ofList (digits.take point.toNat ++ '.' :: digits.drop point.toNat)

def exponentText (digits : List Char) (exponent : Int) : String :=
  let fraction := digits.drop 1
  String.ofList (digits.take 1 ++ (if fraction.isEmpty then [] else '.' :: fraction)) ++
    (if exponent < 0 then "e-" else "e+") ++ natText exponent.natAbs

def NumberLayout.magnitudeText (layout : NumberLayout) (mantissa scale : Nat) : String :=
  if mantissa = 0 then "0" ++ layout.wholeMark
  else
    let d := shortest mantissa scale
    let digits := natDigits d.digits
    let point := d.exponent + digits.length
    let positional := match layout.positional with
      | some (least, greatest) => decide (least ≤ point ∧ point ≤ greatest)
      | none => true
    if positional then positionalText layout.wholeMark digits point
    else exponentText digits (point - 1)

def NumberLayout.text (layout : NumberLayout) : Binary64 → String
  | .nan => "NaN"
  | .infinite negative => if negative then "-inf" else "inf"
  | .finite negative mantissa scale =>
    (if negative then "-" else "") ++ layout.magnitudeText mantissa scale

def plainText (x : Binary64) : String :=
  plainLayout.text x

def recordText (x : Binary64) : String :=
  recordLayout.text x

example : recordText (.ofDecimal false 1 16) = "1e+16" := by decide +kernel
example : recordText (.ofDecimal false 1 15) = "1000000000000000.0" := by decide +kernel
example : recordText (.ofDecimal false 15 (-8)) = "1.5e-7" := by decide +kernel
example : recordText (.ofDecimal false 1 (-5)) = "0.00001" := by decide +kernel
example : plainText (.ofDecimal false 1 22) = "10000000000000000000000" := by decide +kernel
example : plainText (.finite true 0 0) = "-0" ∧ recordText (.finite true 0 0) = "-0.0" := by
  decide
example : plainText (.ofDecimal false 25 (-1)) = "2.5" := by decide +kernel

end NetQuery.Number
