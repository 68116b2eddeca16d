import NetQuery.Calendar.Epoch
import NetQuery.Proofs.Calendar.Days

namespace NetQuery

namespace Instant

open Calendar

variable {t : Int} {year : Int}

/-- The first second that has a text. -/
def first : Int := ofDate ⟨Date.minYear, 1, 1⟩ 0 0 0

def last : Int := ofDate ⟨Date.maxYear, 12, 31⟩ 23 59 59

theorem first_eq : first = -8334601228800 := by decide

theorem last_eq : last = 8210266876799 := by decide

/-- The first second whose year is not negative. -/
def yearZero : Int := ofDate ⟨0, 1, 1⟩ 0 0 0

def secondOfDay (t : Int) : Nat := (t % secondsInDay).toNat

def clock (t : Int) : Clock :=
  ⟨secondOfDay t / 3600, secondOfDay t / 60 % 60, secondOfDay t % 60⟩

theorem secondOfDay_lt (t : Int) : secondOfDay t < 86400 := by
  unfold secondOfDay secondsInDay
  omega

theorem clock_lt (t : Int) :
    (clock t).hour < 24 ∧ (clock t).minute < 60 ∧ (clock t).second < 60 := by
  have := secondOfDay_lt t
  simp only [clock]
  omega

theorem isValid_clock (t : Int) : (clock t).isValid = true := by
  obtain ⟨hhour, hminute, hsecond⟩ := clock_lt t
  simp only [Clock.isValid, Bool.and_eq_true, decide_eq_true_eq]
  omega

theorem date_lt (t : Int) : (date t).month < 13 ∧ (date t).day < 32 := by
  obtain ⟨hmonth, hday, -⟩ := Date.ofDays_spec (t / secondsInDay + epochDay)
  have hlength := Date.monthLength_le (date t).year (date t).month
  simp only [date] at hlength ⊢
  omega

/-- A second is the one of its date and its time of day. -/
theorem ofDate_date (t : Int) :
    ofDate (date t) (clock t).hour (clock t).minute (clock t).second = t := by
  have hdays : (date t).toDays = t / secondsInDay + epochDay := (Date.ofDays_spec _).2.2
  rw [ofDate, hdays]
  simp only [clock]
  unfold secondOfDay secondsInDay
  omega

theorem le_year_iff :
    year ≤ (date t).year ↔ Date.daysBeforeYear year ≤ t / secondsInDay + epochDay :=
  Date.le_yearOfDay_iff

theorem year_le_iff :
    (date t).year ≤ year ↔ t / secondsInDay + epochDay < Date.daysBeforeYear (year + 1) := by
  rw [← Int.lt_add_one_iff, ← Int.not_le, le_year_iff, Int.not_le]

theorem calendarYear_iff :
    Date.minYear ≤ (date t).year ∧ (date t).year ≤ Date.maxYear ↔ first ≤ t ∧ t ≤ last := by
  rw [le_year_iff, year_le_iff, first_eq, last_eq, Date.daysBeforeYear_minYear,
    Date.daysBeforeYear_maxYear_succ]
  unfold secondsInDay epochDay
  omega

/-- The seconds with a text are those of the years of the calendar. -/
theorem exists_iso_iff : (∃ text, iso? t = some text) ↔ first ≤ t ∧ t ≤ last := by
  rw [← calendarYear_iff]
  simp [iso?]

/-- The years of four digits without a sign go as far as epoch numbers do. -/
theorem fourDigits_iff :
    0 ≤ (date t).year ∧ (date t).year ≤ 9999 ↔ yearZero ≤ t ∧ t ≤ Epoch.maxSeconds := by
  have hzero : yearZero = -62167219200 := by decide
  have hmin : Date.daysBeforeYear 0 = -366 := by decide
  have hmax : Date.daysBeforeYear (9999 + 1) = 3652059 := by decide
  rw [le_year_iff, year_le_iff, hzero, hmin, hmax]
  unfold secondsInDay epochDay Epoch.maxSeconds
  omega

/-- Within the calendar the date and the time of day make up the second again. -/
theorem instant?_date (h : Date.minYear ≤ (date t).year ∧ (date t).year ≤ Date.maxYear) :
    instant? (date t) (clock t) = some t := by
  have hvalid : (date t).isValid = true := Date.isValid_ofDays h.1 h.2
  have hsecond : min (clock t).second 59 = (clock t).second := by
    have := (clock_lt t).2.2
    omega
  rw [instant?, hvalid, isValid_clock, hsecond]
  exact congrArg some (ofDate_date t)

end Instant

end NetQuery
