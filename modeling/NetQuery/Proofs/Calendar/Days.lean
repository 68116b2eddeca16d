import NetQuery.Calendar.Instant

namespace NetQuery

namespace Date

variable {year : Int} {month : Nat} {n : Int}

def yearLength (year : Int) : Nat :=
  if isLeap year then 366 else 365

theorem daysBeforeYear_succ (year : Int) :
    daysBeforeYear (year + 1) = daysBeforeYear year + yearLength year := by
  unfold daysBeforeYear yearLength isLeap
  by_cases h4 : year % 4 = 0 <;> by_cases h100 : year % 100 = 0 <;>
    by_cases h400 : year % 400 = 0 <;> simp [h4, h100, h400] <;> omega

theorem daysBeforeYear_minYear : daysBeforeYear minYear = -95746130 := by decide

theorem daysBeforeYear_maxYear_succ : daysBeforeYear (maxYear + 1) = 95745399 := by decide

theorem daysBeforeYear_lt {year' : Int} (h : year < year') :
    daysBeforeYear year < daysBeforeYear year' := by
  unfold daysBeforeYear
  omega

/-- A day lies in its year: the guess by the length of a cycle is off by one year at most. -/
theorem daysBeforeYear_yearOfDay (n : Int) :
    daysBeforeYear (yearOfDay n) ≤ n ∧ n < daysBeforeYear (yearOfDay n + 1) := by
  have hbefore : daysBeforeYear (n * 400 / 146097 + 1 - 1) ≤ n := by
    unfold daysBeforeYear
    omega
  have hbehind : n < daysBeforeYear (n * 400 / 146097 + 1 + 1 + 1) := by
    unfold daysBeforeYear
    omega
  unfold yearOfDay
  generalize n * 400 / 146097 + 1 = guess at hbefore hbehind ⊢
  simp only
  split
  · next h => exact ⟨hbefore, by rwa [Int.sub_add_cancel]⟩
  · next h =>
    split
    · next h' => exact ⟨h', hbehind⟩
    · next h' => exact ⟨Int.not_lt.mp h, Int.not_le.mp h'⟩

theorem le_yearOfDay_iff : year ≤ yearOfDay n ↔ daysBeforeYear year ≤ n := by
  obtain ⟨hfirst, hlast⟩ := daysBeforeYear_yearOfDay n
  constructor
  · intro h
    rcases Int.lt_or_eq_of_le h with hlt | rfl
    · exact Int.le_trans (Int.le_of_lt (daysBeforeYear_lt hlt)) hfirst
    · exact hfirst
  · intro h
    refine Int.not_lt.mp fun hlt => ?_
    -- a later year begins where the year of the day has ended, or after that
    rcases Int.lt_or_eq_of_le (Int.add_one_le_of_lt hlt) with hlt' | heq
    · have := daysBeforeYear_lt hlt'
      omega
    · rw [heq] at hlast
      omega

theorem daysBeforeMonth_succ (year : Int) (h : 1 ≤ month) :
    daysBeforeMonth year (month + 1) = daysBeforeMonth year month + monthLength year month := by
  obtain ⟨m, rfl⟩ := Nat.exists_eq_add_of_le' h
  simp [daysBeforeMonth, List.range_succ]

theorem daysBeforeMonth_thirteen (year : Int) : daysBeforeMonth year 13 = yearLength year := by
  cases h : isLeap year <;> simp [daysBeforeMonth, yearLength, monthLength, List.range, h,
    List.range.loop]

theorem monthLength_le (year : Int) (month : Nat) : monthLength year month ≤ 31 := by
  unfold monthLength
  split <;> try omega
  split <;> omega

/-- What is said of the month and day that are found from a month on, with the given number of
months behind it, and `rest` days after its beginning. -/
theorem monthAndDay_spec (year : Int) (months month rest : Nat) (hfirst : 1 ≤ month)
    (hlast : month + months = 12)
    (hrest : daysBeforeMonth year month + rest < yearLength year) :
    let found := monthAndDay year month months rest
    (1 ≤ found.1 ∧ found.1 ≤ 12) ∧ (1 ≤ found.2 ∧ found.2 ≤ monthLength year found.1) ∧
      daysBeforeMonth year found.1 + (found.2 - 1) = daysBeforeMonth year month + rest := by
  induction months generalizing month rest with
  | zero =>
    obtain rfl : month = 12 := hlast
    have hyear := daysBeforeMonth_succ year hfirst
    rw [daysBeforeMonth_thirteen] at hyear
    simp only [monthAndDay]
    omega
  | succ months ih =>
    have hnext := daysBeforeMonth_succ year hfirst
    simp only [monthAndDay]
    split
    · next h =>
      simp only
      omega
    · next h =>
      have hfound := ih (month + 1) (rest - monthLength year month) (by omega) (by omega) (by omega)
      simp only at hfound
      omega

/-- The date of a day has a month of the calendar and a day of that month, and just so many days
come before it. -/
theorem ofDays_spec (n : Int) :
    (1 ≤ (ofDays n).month ∧ (ofDays n).month ≤ 12) ∧
      (1 ≤ (ofDays n).day ∧ (ofDays n).day ≤ monthLength (ofDays n).year (ofDays n).month) ∧
      (ofDays n).toDays = n := by
  obtain ⟨hfirst, hlast⟩ := daysBeforeYear_yearOfDay n
  rw [daysBeforeYear_succ] at hlast
  have hzero : daysBeforeMonth (yearOfDay n) 1 = 0 := rfl
  have hrest : daysBeforeMonth (yearOfDay n) 1 + (n - daysBeforeYear (yearOfDay n)).toNat <
      yearLength (yearOfDay n) := by
    omega
  obtain ⟨hmonth, hday, hbefore⟩ := monthAndDay_spec (yearOfDay n) 11 1 _ (by decide) rfl hrest
  refine ⟨hmonth, hday, ?_⟩
  simp only [toDays, ofDays]
  omega

theorem isValid_ofDays (hmin : minYear ≤ (ofDays n).year) (hmax : (ofDays n).year ≤ maxYear) :
    (ofDays n).isValid = true := by
  obtain ⟨-, ⟨hfirst, hlast⟩, -⟩ := ofDays_spec n
  simp [isValid, hmin, hmax, hfirst, hlast]

end Date

end NetQuery
