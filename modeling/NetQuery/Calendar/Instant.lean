import NetQuery.Calendar.Date
import NetQuery.Number.Integer

namespace NetQuery.Instant

open Number

def epochDay : Int := 719162

def secondsInDay : Int := 86400

def ofDate (date : Date) (hour minute second : Nat) : Int :=
  (date.toDays - epochDay) * secondsInDay + (hour * 3600 + minute * 60 + second : Nat)

def date (t : Int) : Date :=
  .ofDays (t / secondsInDay + epochDay)

/-- Years of four digits have no sign; others have one and at least four digits. -/
def yearText (year : Int) : String :=
  let digits := String.ofList (paddedDigits 4 year.natAbs)
  if 0 ≤ year ∧ year ≤ 9999 then digits else (if year < 0 then "-" else "+") ++ digits

def twoDigits (n : Nat) : String :=
  String.ofList (paddedDigits 2 n)

/-- The text of a second in UTC, `none` when its year is beyond the calendar. -/
def iso? (t : Int) : Option String :=
  let d := date t
  let second := (t % secondsInDay).toNat
  if Date.minYear ≤ d.year ∧ d.year ≤ Date.maxYear then
    some (yearText d.year ++ "-" ++ twoDigits d.month ++ "-" ++ twoDigits d.day ++ "T" ++
      twoDigits (second / 3600) ++ ":" ++ twoDigits (second / 60 % 60) ++ ":" ++
      twoDigits (second % 60) ++ "Z")
  else none

example : iso? 1705329342 = some "2024-01-15T14:35:42Z" := by decide

end NetQuery.Instant
