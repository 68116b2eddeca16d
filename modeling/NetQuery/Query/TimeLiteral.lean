import NetQuery.Calendar.Epoch
import NetQuery.Query.Literal
import NetQuery.Text.DecimalDigit

namespace NetQuery

open Number

inductive TimeFault where
  | epoch (fault : Epoch.Fault)
  | unknownForm
  deriving DecidableEq, Repr

def TimeFault.message : TimeFault → String
  | epoch fault => fault.message
  | unknownForm => "expected epoch seconds/milliseconds, ISO-8601 or a relative time like 24h"

inductive TimeError where
  | unreadable (value : String) (fault : TimeFault)
  | duration (value : String)
  deriving DecidableEq, Repr

def maxAmount : Nat := 1000000

def TimeError.message : TimeError → String
  | unreadable value fault => "Invalid timestamp '" ++ value ++ "': " ++ fault.message
  | duration value =>
    "Invalid relative time '" ++ value ++ "': amount must be between 0 and " ++ natText maxAmount

def unitSeconds? : Char → Option Nat
  | 's' => some 1
  | 'm' => some 60
  | 'h' => some 3600
  | 'd' => some 86400
  | 'w' => some 604800
  | _ => none

/-- Digits of any script and the seconds of the unit after them. -/
def relative? (cs : List Char) : Option (List Char × Nat) := do
  let unit ← unitSeconds? (← cs.getLast?)
  let digits := cs.dropLast
  if !digits.isEmpty && digits.all Text.isDecimalDigit then some (digits, unit) else none

namespace Literal

def epoch (text : String) (n : Binary64) : Except TimeError Int :=
  match Epoch.seconds n with
  | .ok t => .ok t
  | .error fault => .error (.unreadable text (.epoch fault))

/-- The second that a text tells, without the blanks around it. Only ASCII digits make an amount. -/
def timeOfText (now : Int) (text : String) : Except TimeError Int :=
  let cs := Text.trimBlanks text.toList
  let s := String.ofList cs
  match relative? cs with
  | some (digits, unit) =>
    match (readDigits? digits).filter (· ≤ maxAmount) with
    | some amount => .ok (now - (amount * unit : Nat))
    | none => .error (.duration s)
  | none =>
    match readBinary64? s with
    | some n => epoch s n
    | none =>
      match Calendar.read? cs with
      | some t => .ok t
      | none => .error (.unreadable s .unknownForm)

/-- The second that a literal tells, relative times counting back from `now`. -/
def time (now : Int) : Literal → Except TimeError Int
  | int n => epoch (intText n) (.ofInt n)
  | float x => epoch (plainText x) x
  | text s => timeOfText now s

end Literal

end NetQuery
