import NetQuery.Proofs.Calendar.Texts

namespace NetQuery

namespace Date

variable {year year' : Int} {month month' : Nat} {d : Date}

theorem daysBeforeYear_le (h : year ≤ year') : daysBeforeYear year ≤ daysBeforeYear year' := by
  unfold daysBeforeYear
  omega

theorem daysBeforeMonth_le (hmonth : 1 ≤ month) (hle : month ≤ month') :
    daysBeforeMonth year month ≤ daysBeforeMonth year month' := by
  induction hle with
  | refl => exact Nat.le_refl _
  | step hle ih =>
    rw [Nat.succ_eq_add_one, daysBeforeMonth_succ year (Nat.le_trans hmonth hle)]
    exact Nat.le_trans ih (Nat.le_add_right _ _)

/-- Only the twelve months have days. -/
theorem month_of_pos (h : 0 < monthLength year month) : 1 ≤ month ∧ month ≤ 12 := by
  unfold monthLength at h
  split at h <;> omega

theorem toDays_of_isValid (h : d.isValid = true) :
    daysBeforeYear d.year ≤ d.toDays ∧ d.toDays < daysBeforeYear (d.year + 1) := by
  simp only [isValid, Bool.and_eq_true, decide_eq_true_eq] at h
  obtain ⟨⟨⟨-, -⟩, hfirst⟩, hlast⟩ := h
  obtain ⟨hmonth, hmonth'⟩ := month_of_pos (Nat.lt_of_lt_of_le hfirst hlast)
  have hnext := daysBeforeMonth_succ d.year hmonth
  have hyear : daysBeforeMonth d.year (d.month + 1) ≤ daysBeforeMonth d.year 13 :=
    daysBeforeMonth_le (by omega) (by omega)
  rw [daysBeforeMonth_thirteen] at hyear
  rw [daysBeforeYear_succ, toDays]
  omega

end Date

namespace Calendar

open Instant

variable {cs : List Char} {date : Date} {clock : Clock} {t : Int}

/-- A date and a time of day make a second of the calendar. -/
theorem instant?_range (h : instant? date clock = some t) : first ≤ t ∧ t ≤ last := by
  simp only [instant?] at h
  split at h
  · next hvalid =>
    cases h
    rw [Bool.and_eq_true] at hvalid
    obtain ⟨hdate, hclock⟩ := hvalid
    obtain ⟨hlow, hhigh⟩ := Date.toDays_of_isValid hdate
    simp only [Date.isValid, Bool.and_eq_true, decide_eq_true_eq] at hdate
    obtain ⟨⟨⟨hmin, hmax⟩, -⟩, -⟩ := hdate
    simp only [Clock.isValid, Bool.and_eq_true, decide_eq_true_eq] at hclock
    have hstart := Date.daysBeforeYear_le hmin
    have hend := Date.daysBeforeYear_le (Int.add_le_add_right hmax 1)
    rw [Date.daysBeforeYear_minYear] at hstart
    rw [Date.daysBeforeYear_maxYear_succ] at hend
    rw [first_eq, last_eq, ofDate]
    unfold epochDay secondsInDay
    omega
  · cases h

theorem offset?_range {ahead : Int} (h : offset? cs = some ahead) :
    -86400 < ahead ∧ ahead < 86400 := by
  have hsigned {rest : List Char} {n : Int}
      (hn : (do
        let hours ← fixedDigits? 2 rest
        let minutes ← fixedDigits? 2 (← expect? ':' hours.2)
        if minutes.2.isEmpty ∧ hours.1 ≤ 23 ∧ minutes.1 ≤ 59 then
          some ((hours.1 * 3600 + minutes.1 * 60 : Nat) : Int)
        else none) = some n) : 0 ≤ n ∧ n < 86400 := by
    simp only [Option.bind_eq_bind, Option.bind_eq_some_iff] at hn
    obtain ⟨hours, -, behindColon, -, minutes, -, hn⟩ := hn
    split at hn
    · next hsmall =>
      cases hn
      omega
    · cases hn
  unfold offset? at h
  simp only at h
  split at h
  · cases h
    decide
  · cases h
    decide
  · have := hsigned h
    omega
  · obtain ⟨n, hn, rfl⟩ := Option.map_eq_some_iff.mp h
    have := hsigned hn
    omega
  · obtain ⟨n, hn, rfl⟩ := Option.map_eq_some_iff.mp h
    have := hsigned hn
    omega
  · cases h

theorem strict?_range (h : strict? cs = some t) : first - 86400 < t ∧ t < last + 86400 := by
  -- the date and the time of day are read first
  obtain ⟨⟨_, _⟩, -, h⟩ := Option.bind_eq_some_iff.mp h
  obtain ⟨_, -, h⟩ := Option.bind_eq_some_iff.mp h
  obtain ⟨⟨_, _⟩, -, h⟩ := Option.bind_eq_some_iff.mp h
  obtain ⟨_, -, h⟩ := Option.bind_eq_some_iff.mp h
  obtain ⟨⟨_, _⟩, -, h⟩ := Option.bind_eq_some_iff.mp h
  obtain ⟨_, -, h⟩ := Option.bind_eq_some_iff.mp h
  obtain ⟨⟨_, _⟩, -, h⟩ := Option.bind_eq_some_iff.mp h
  obtain ⟨_, -, h⟩ := Option.bind_eq_some_iff.mp h
  obtain ⟨⟨_, _⟩, -, h⟩ := Option.bind_eq_some_iff.mp h
  obtain ⟨_, -, h⟩ := Option.bind_eq_some_iff.mp h
  obtain ⟨⟨_, _⟩, -, h⟩ := Option.bind_eq_some_iff.mp h
  obtain ⟨_, -, h⟩ := Option.bind_eq_some_iff.mp h
  obtain ⟨u, hu, h⟩ := Option.bind_eq_some_iff.mp h
  obtain ⟨ahead, hahead, h⟩ := Option.bind_eq_some_iff.mp h
  cases h
  have := instant?_range hu
  have := offset?_range hahead
  omega

/-- A moment in a loose form is that of a date and a time of day that are read to the end. -/
theorem exists_instant_of_loose (h : looseMoment? cs = some t ∨ blankMoment? cs = some t ∨
    looseDay? cs = some t) : ∃ date clock, instant? date clock = some t := by
  have hend {rest : List Char} {date : Date} {clock : Clock}
      (h : (if rest.isEmpty then instant? date clock else none) = some t) :
      instant? date clock = some t := by
    split at h
    · exact h
    · cases h
  rcases h with h | h | h
  · simp only [looseMoment?, Option.bind_eq_bind, Option.bind_eq_some_iff] at h
    obtain ⟨_, -, _, -, _, -, _, -, h⟩ := h
    exact ⟨_, _, hend h⟩
  · simp only [blankMoment?, Option.bind_eq_bind, Option.bind_eq_some_iff] at h
    obtain ⟨_, -, _, -, h⟩ := h
    exact ⟨_, _, hend h⟩
  · simp only [looseDay?, Option.bind_eq_bind, Option.bind_eq_some_iff] at h
    obtain ⟨_, -, h⟩ := h
    exact ⟨_, _, hend h⟩

/-- A text in one of the forms tells a second of the calendar, up to a day. -/
theorem read?_range (h : read? cs = some t) : first - 86400 < t ∧ t < last + 86400 := by
  have hloose (h : looseMoment? cs = some t ∨ blankMoment? cs = some t ∨ looseDay? cs = some t) :
      first - 86400 < t ∧ t < last + 86400 := by
    obtain ⟨date, clock, hread⟩ := exists_instant_of_loose h
    have := instant?_range hread
    omega
  simp only [read?, Option.orElse_eq_orElse, Option.orElse_eq_or, Option.or_eq_some_iff] at h
  rcases h with h | ⟨-, h | ⟨-, h | ⟨-, h⟩⟩⟩
  · exact strict?_range h
  · exact hloose (.inl h)
  · exact hloose (.inr (.inl h))
  · exact hloose (.inr (.inr h))

end Calendar

open Instant Number

variable {now t : Int}

/-- The second has a date of the calendar. -/
def Instant.InCalendar (t : Int) : Prop :=
  first ≤ t ∧ t ≤ last

/-- The longest amount of time before now: the greatest number of weeks. -/
def longestAmount : Int := 604800000000

theorem unitSeconds?_le {c : Char} {unit : Nat} (h : unitSeconds? c = some unit) :
    unit ≤ 604800 := by
  unfold unitSeconds? at h
  split at h <;> cases h <;> decide

/-- An amount of time is no longer than the greatest number of weeks. -/
theorem amount_le {cs digits : List Char} {amount unit : Nat}
    (h : relative? cs = some (digits, unit)) (hamount : amount ≤ maxAmount) :
    ((amount * unit : Nat) : Int) ≤ longestAmount := by
  obtain ⟨⟨c, -, hunit⟩, -⟩ := relative?_eq_some h
  have := Nat.mul_le_mul hamount (unitSeconds?_le hunit)
  unfold maxAmount at this
  unfold longestAmount
  omega

namespace Literal

theorem epoch_range {text : String} {x : Binary64} (h : epoch text x = .ok t) :
    Epoch.minSeconds ≤ t ∧ t ≤ Epoch.maxSeconds := by
  unfold epoch at h
  split at h
  · next hx =>
    cases h
    exact Epoch.seconds_range hx
  · cases h

/-- A literal tells a second of the calendar, up to a day or an amount of time. -/
theorem time_range {literal : Literal} (hnow : InCalendar now)
    (h : literal.time now = .ok t) : first - longestAmount ≤ t ∧ t ≤ last + 86400 := by
  have hfirst := first_eq
  have hlast := last_eq
  have hepoch {text : String} {x : Binary64} (h : epoch text x = .ok t) :
      first - longestAmount ≤ t ∧ t ≤ last + 86400 := by
    have := epoch_range h
    unfold Epoch.minSeconds Epoch.maxSeconds at this
    unfold longestAmount
    omega
  cases literal with
  | int n => exact hepoch h
  | float x => exact hepoch h
  | text s =>
    simp only [time, timeOfText] at h
    split at h
    · next digits unit hrelative =>
      split at h
      · next amount hamount =>
        cases h
        have hle : amount ≤ maxAmount := by simpa using (Option.filter_eq_some_iff.mp hamount).2
        have := amount_le hrelative hle
        unfold InCalendar at hnow
        omega
      · cases h
    · split at h
      · exact hepoch h
      · split at h
        · next hread =>
          cases h
          have := Calendar.read?_range hread
          unfold longestAmount
          omega
        · cases h

end Literal

end NetQuery
