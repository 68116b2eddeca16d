import NetQuery.Arithmetic

namespace NetQuery

structure Date where
  year : Int
  month : Nat
  day : Nat
  deriving DecidableEq, Repr

namespace Date

def isLeap (year : Int) : Bool :=
  year % 4 = 0 && (year % 100 ≠ 0 || year % 400 = 0)

/-- The days of a month; there is none before January and after December. -/
def monthLength (year : Int) (month : Nat) : Nat :=
  match month with
  | 1 | 3 | 5 | 7 | 8 | 10 | 12 => 31
  | 4 | 6 | 9 | 11 => 30
  | 2 => if isLeap year then 29 else 28
  | _ => 0

def daysBeforeMonth (year : Int) (month : Nat) : Nat :=
  ((List.range (month - 1)).map fun m => monthLength year (m + 1)).sum

def daysBeforeYear (year : Int) : Int :=
  365 * (year - 1) + (year - 1) / 4 - (year - 1) / 100 + (year - 1) / 400

def minYear : Int := -262143

def maxYear : Int := 262142

def isValid (d : Date) : Bool :=
  minYear ≤ d.year && d.year ≤ maxYear && 1 ≤ d.day && d.day ≤ monthLength d.year d.month

/-- The days before the date. -/
def toDays (d : Date) : Int :=
  daysBeforeYear d.year + daysBeforeMonth d.year d.month + (d.day - 1)

/-- The year that a day falls in. A cycle of 400 years has 146097 days, which gives the year up to
one. -/
def yearOfDay (n : Int) : Int :=
  let guess := n * 400 / 146097 + 1
  if n < daysBeforeYear guess then guess - 1
  else if daysBeforeYear (guess + 1) ≤ n then guess + 1
  else guess

/-- The month and day of a day of a year, counted from zero, from the given month on. -/
def monthAndDay (year : Int) (month : Nat) : Nat → Nat → Nat × Nat
  | 0, rest => (month, rest + 1)
  | months + 1, rest =>
    if rest < monthLength year month then (month, rest + 1)
    else monthAndDay year (month + 1) months (rest - monthLength year month)

def ofDays (n : Int) : Date :=
  let year := yearOfDay n
  let (month, day) := monthAndDay year 1 11 (n - daysBeforeYear year).toNat
  ⟨year, month, day⟩

example : toDays ⟨1970, 1, 1⟩ = 719162 := by decide
example : ofDays 738885 = ⟨2024, 1, 1⟩ := by decide
example : ofDays (toDays ⟨2024, 12, 31⟩) = ⟨2024, 12, 31⟩ := by decide
example : ofDays (-1) = ⟨0, 12, 31⟩ := by decide

end Date

end NetQuery
