import NetQuery.Number.Binary64
import NetQuery.Number.Integer

namespace NetQuery.Number

def readExponent? (cs : List Char) : Option Int :=
  match cs with
  | '-' :: rest => (readDigits? rest).map fun n => -(n : Int)
  | '+' :: rest => (readDigits? rest).map Int.ofNat
  | _ => (readDigits? cs).map Int.ofNat

/-- Digits, a point and digits, with a digit on one side at least, and an optional exponent. -/
def readPlain? (negative : Bool) (cs : List Char) : Option Binary64 :=
  let whole := cs.takeWhile Char.isDigit
  let afterWhole := cs.dropWhile Char.isDigit
  let (fraction, tail) := match afterWhole with
    | '.' :: rest => (rest.takeWhile Char.isDigit, rest.dropWhile Char.isDigit)
    | _ => ([], afterWhole)
  let digits := whole ++ fraction
  if digits.isEmpty then none
  else
    let exponent? : Option Int := match tail with
      | [] => some 0
      | c :: rest => if c == 'e' || c == 'E' then readExponent? rest else none
    exponent?.map fun e => .ofDecimal negative (digitsFrom 0 digits) (e - fraction.length)

def readMagnitude? (negative : Bool) (cs : List Char) : Option Binary64 :=
  let word := String.ofList (cs.map Char.toLower)
  if word = "inf" ∨ word = "infinity" then some (.infinite negative)
  else if word = "nan" then some .nan
  else readPlain? negative cs

def readBinary64? (s : String) : Option Binary64 :=
  match s.toList with
  | '-' :: rest => readMagnitude? true rest
  | '+' :: rest => readMagnitude? false rest
  | cs => readMagnitude? false cs

example : readBinary64? "1." = some .one ∧ readBinary64? "+10e-1" = some .one := by decide +kernel
example : readBinary64? "." = none ∧ readBinary64? " 1" = none ∧ readBinary64? "1e" = none := by
  decide
example : readBinary64? "-Infinity" = some (.infinite true) := by decide

end NetQuery.Number
