import NetQuery.Arithmetic

namespace NetQuery.Number

def digitValue (c : Char) : Nat :=
  c.toNat - 0x30

/-- The number that the digits spell after `acc`. -/
def digitsFrom (acc : Nat) (cs : List Char) : Nat :=
  cs.foldl (fun n c => 10 * n + digitValue c) acc

/-- A non-empty run of ASCII digits, and nothing else. -/
def readDigits? (cs : List Char) : Option Nat :=
  if !cs.isEmpty && cs.all Char.isDigit then some (digitsFrom 0 cs) else none

/-- Digits after an optional plus sign, of a number up to `limit`. -/
def readUnsigned? (limit : Nat) (cs : List Char) : Option Nat := do
  let n ← readDigits? (match cs with | '+' :: rest => rest | _ => cs)
  if n ≤ limit then some n else none

def maxInt64 : Int := 9223372036854775807

def minInt64 : Int := -9223372036854775808

def maxUInt64 : Nat := 18446744073709551615

/-- Digits after an optional sign, of a number of 64 bits. -/
def readInteger? (cs : List Char) : Option Int := do
  let n ← match cs with
    | '-' :: rest => (readDigits? rest).map fun n => -(n : Int)
    | '+' :: rest => (readDigits? rest).map Int.ofNat
    | _ => (readDigits? cs).map Int.ofNat
  if minInt64 ≤ n ∧ n ≤ maxInt64 then some n else none

def natDigits (n : Nat) : List Char :=
  Nat.toDigits 10 n

def natText (n : Nat) : String :=
  String.ofList (natDigits n)

def intText (n : Int) : String :=
  if n < 0 then "-" ++ natText n.natAbs else natText n.natAbs

def paddedDigits (width n : Nat) : List Char :=
  List.replicate (width - (natDigits n).length) '0' ++ natDigits n

example : readInteger? "-9223372036854775808".toList = some minInt64 := by decide
example : readInteger? "9223372036854775808".toList = none := by decide
example : readInteger? "+".toList = none ∧ readInteger? [] = none := by decide
example : intText (-42) = "-42" ∧ paddedDigits 2 7 = ['0', '7'] := by decide

end NetQuery.Number
