import NetQuery.Comparison
import NetQuery.Number.Decimal
import NetQuery.Number.Layout
import NetQuery.Json.Basic

namespace NetQuery

inductive Literal where
  | int (value : Int)
  | float (value : Binary64)
  | text (value : String)
  deriving DecidableEq, Repr

namespace Literal

open Number

/-- Whole numbers up to here are exact in binary64. -/
def maxExact : Int := 9007199254740991

/-- Digits with exactly one point, after an optional minus sign. Addresses and dates are none. -/
def looksDecimal (cs : List Char) : Bool :=
  let body := match cs with | '-' :: rest => rest | _ => cs
  body.count '.' == 1 && body.all (fun c => c.isDigit || c == '.') && body.any Char.isDigit

/-- A word as a literal: an exact whole number, else a finite decimal, else text. -/
def ofWord (word : String) : Literal :=
  match (readInteger? word.toList).filter fun n => n.natAbs ≤ maxExact.natAbs with
  | some n => int n
  | none =>
    if looksDecimal word.toList then
      match (readBinary64? word).filter Binary64.isFinite with
      | some x => float x
      | none => text word
    else text word

def toText : Literal → String
  | int n => intText n
  | float x => plainText x
  | text s => s

def number? : Literal → Option Binary64
  | int n => some (.ofInt n)
  | float x => some x
  | text s => readBinary64? s

/-- The literal as JSON. A decimal that is not finite has no JSON form. -/
def toJson : Literal → Json
  | int n => .int n
  | float x => if x.isFinite then .float x else .null
  | text s => .str s

example : ofWord "007" = int 7 ∧ ofWord "10.0.0.1" = text "10.0.0.1" := by decide
example : ofWord ".5" = float (.ofDecimal false 5 (-1)) := by decide +kernel
example : ofWord "9007199254740992" = text "9007199254740992" := by decide

end Literal

end NetQuery
