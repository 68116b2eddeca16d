import NetQuery.Proofs.Calendar.Instants
import NetQuery.Proofs.Number.Decimals
import NetQuery.Query.TimeLiteral

namespace NetQuery

/-- An amount of time is digits of any script and a unit. -/
theorem relative?_eq_some {cs digits : List Char} {unit : Nat}
    (h : relative? cs = some (digits, unit)) :
    (∃ c, cs.getLast? = some c ∧ unitSeconds? c = some unit) ∧
      ∀ c ∈ cs.dropLast, Text.isDecimalDigit c = true := by
  simp only [relative?, Option.bind_eq_bind, Option.bind_eq_some_iff] at h
  obtain ⟨c, hlast, u, hunit, h⟩ := h
  split at h
  · next hdigits =>
    simp only [Option.some.injEq, Prod.mk.injEq] at h
    obtain ⟨-, rfl⟩ := h
    rw [Bool.and_eq_true] at hdigits
    exact ⟨⟨c, hlast, hunit⟩, List.all_eq_true.mp hdigits.2⟩
  · cases h

namespace Calendar

open Number

variable {width n : Nat} {digits : List Char} {rest : List Char}

theorem expect?_self (c : Char) (rest : List Char) : expect? c (c :: rest) = some rest := by
  simp [expect?]

theorem fixedDigits?_paddedDigits (hwidth : 0 < width) (h : n < 10 ^ width) (rest : List Char) :
    fixedDigits? width (paddedDigits width n ++ rest) = some (n, rest) := by
  have hlength := length_paddedDigits hwidth h
  have htake : (paddedDigits width n ++ rest).take width = paddedDigits width n :=
    List.take_left' hlength
  have hdrop : (paddedDigits width n ++ rest).drop width = rest := List.drop_left' hlength
  have hdigits : (paddedDigits width n).all Char.isDigit = true :=
    List.all_eq_true.mpr isDigit_of_mem_paddedDigits
  simp [fixedDigits?, htake, hdrop, hlength, hdigits, digitsFrom_paddedDigits]

/-- Digits up to the width are read whole, where no other digit follows. -/
theorem upToDigits?_append (hne : digits ≠ []) (hdigits : ∀ c ∈ digits, c.isDigit = true)
    (hlength : digits.length ≤ width) (hrest : ∀ c ∈ rest.head?, c.isDigit = false) :
    upToDigits? width (digits ++ rest) = some (digitsFrom 0 digits, rest) := by
  have hhead : ∀ c ∈ (rest.take (width - digits.length)).head?, c.isDigit = false := by
    intro c hc
    rw [List.head?_take] at hc
    split at hc
    · cases hc
    · exact hrest c hc
  have htaken : ((digits ++ rest).take width).takeWhile Char.isDigit = digits := by
    rw [List.take_append, List.take_of_length_le hlength, Text.takeWhile_run hdigits hhead]
  simp [upToDigits?, htaken, hne]

/-- Two digits before another character are read without any blanks before them. -/
theorem looseNumber?_paddedDigits {c : Char} (h : n < 100) (hc : c.isDigit = false)
    (rest : List Char) :
    looseNumber? 2 (paddedDigits 2 n ++ c :: rest) = some (n, c :: rest) := by
  obtain ⟨d, ds, hd, hdigit⟩ := exists_paddedDigits_eq_cons 2 n
  have hblanks : Text.dropBlanks (paddedDigits 2 n ++ c :: rest) =
      paddedDigits 2 n ++ c :: rest := by
    apply Text.dropWhile_eq_self
    rw [hd]
    rintro _ ⟨⟩
    exact Text.not_blank_of_isDigit hdigit
  have hlength : (paddedDigits 2 n).length = 2 := length_paddedDigits (by decide) h
  rw [looseNumber?, hblanks, upToDigits?_append (paddedDigits_ne_nil 2 n)
    isDigit_of_mem_paddedDigits (Nat.le_of_eq hlength) (by rintro _ ⟨⟩; exact hc),
    digitsFrom_paddedDigits]

/-- A year with a sign is read up to the dash behind it. -/
theorem looseYear?_signed {sign : Char} (hsign : sign = '-' ∨ sign = '+') (year : Nat)
    (rest : List Char) :
    ∃ y, looseYear? (sign :: (paddedDigits 4 year ++ '-' :: rest)) = some (y, '-' :: rest) := by
  have hread : upToDigits? (paddedDigits 4 year ++ '-' :: rest).length
      (paddedDigits 4 year ++ '-' :: rest) = some (year, '-' :: rest) := by
    rw [upToDigits?_append (paddedDigits_ne_nil 4 year) isDigit_of_mem_paddedDigits (by simp)
      (by rintro _ ⟨⟩; decide), digitsFrom_paddedDigits]
  rcases hsign with rfl | rfl
  · refine ⟨-(year : Int), ?_⟩
    rw [looseYear?, show Text.dropBlanks _ = _ from
      Text.dropWhile_eq_self (by rintro _ ⟨⟩; decide)]
    simp only [hread, Option.map_some]
  · refine ⟨year, ?_⟩
    rw [looseYear?, show Text.dropBlanks _ = _ from
      Text.dropWhile_eq_self (by rintro _ ⟨⟩; decide)]
    simp only [hread, Option.map_some]

end Calendar

namespace Instant

open Number Calendar

variable {t : Int} {text : String}

/-- The text of a second from its hour on. -/
def clockText (t : Int) : List Char :=
  paddedDigits 2 (clock t).hour ++ ':' :: (paddedDigits 2 (clock t).minute ++
    ':' :: (paddedDigits 2 (clock t).second ++ ['Z']))

def textBehindYear (t : Int) : List Char :=
  '-' :: (paddedDigits 2 (date t).month ++ '-' :: (paddedDigits 2 (date t).day ++
    'T' :: clockText t))

/-- The text of a second has a sign before its year or none. -/
theorem toList_iso (h : iso? t = some text) :
    ((0 ≤ (date t).year ∧ (date t).year ≤ 9999) ∧
        text.toList = paddedDigits 4 (date t).year.natAbs ++ textBehindYear t) ∨
      (¬(0 ≤ (date t).year ∧ (date t).year ≤ 9999) ∧ ∃ sign, (sign = '-' ∨ sign = '+') ∧
        text.toList = sign :: (paddedDigits 4 (date t).year.natAbs ++ textBehindYear t)) := by
  have htext : text.toList = (yearText (date t).year).toList ++ textBehindYear t := by
    unfold iso? at h
    simp only [Option.ite_none_right_eq_some, Option.some.injEq] at h
    rw [← h.2]
    simp [twoDigits, textBehindYear, clockText, clock, secondOfDay]
  rw [htext, yearText]
  split
  · next hyear => exact .inl ⟨hyear, by simp⟩
  · next hyear =>
    refine .inr ⟨hyear, ?_⟩
    split
    · exact ⟨'-', .inl rfl, by simp⟩
    · exact ⟨'+', .inr rfl, by simp⟩

theorem head?_iso (h : iso? t = some text) : ∃ c, text.toList.head? = some c ∧
    (c.isDigit = true ∨ c = '-' ∨ c = '+') := by
  rcases toList_iso h with ⟨-, htext⟩ | ⟨-, sign, hsign, htext⟩
  · obtain ⟨d, ds, hd, hdigit⟩ := exists_paddedDigits_eq_cons 4 (date t).year.natAbs
    exact ⟨d, by rw [htext, hd]; rfl, .inl hdigit⟩
  · exact ⟨sign, by rw [htext]; rfl, .inr hsign⟩

theorem getLast?_iso (h : iso? t = some text) : text.toList.getLast? = some 'Z' := by
  have hlast : (textBehindYear t).getLast? = some 'Z' := by
    simp [textBehindYear, clockText, List.getLast?_cons, List.getLast?_append]
  rcases toList_iso h with ⟨-, htext⟩ | ⟨-, sign, -, htext⟩
  · rw [htext, List.getLast?_append, hlast]
    rfl
  · rw [htext, List.getLast?_cons, List.getLast?_append, hlast]
    rfl

theorem trimBlanks_iso (h : iso? t = some text) : Text.trimBlanks text.toList = text.toList := by
  obtain ⟨c, hhead, hc⟩ := head?_iso h
  apply Text.trimBlanks_eq_self
  · rw [hhead]
    rintro _ ⟨⟩
    rcases hc with hdigit | rfl | rfl
    · exact Text.not_blank_of_isDigit hdigit
    · decide
    · decide
  · rw [getLast?_iso h]
    rintro _ ⟨⟩
    decide

/-- The text of a second is no amount of time: Z is no unit. -/
theorem relative?_iso (h : iso? t = some text) : relative? text.toList = none := by
  rw [relative?, getLast?_iso h]
  rfl

/-- The text of a second is no epoch number, since a dash follows its year. -/
theorem readBinary64?_iso (h : iso? t = some text) : readBinary64? text = none := by
  have hmagnitude (negative : Bool) :
      readMagnitude? negative (paddedDigits 4 (date t).year.natAbs ++ textBehindYear t) = none :=
    readMagnitude?_of_dash (paddedDigits_ne_nil 4 _) isDigit_of_mem_paddedDigits negative _
  unfold readBinary64?
  rcases toList_iso h with ⟨-, htext⟩ | ⟨-, sign, rfl | rfl, htext⟩
  · obtain ⟨d, ds, hd, hdigit⟩ := exists_paddedDigits_eq_cons 4 (date t).year.natAbs
    rw [htext]
    split
    · next heq =>
      rw [hd] at heq
      cases heq
      cases hdigit
    · next heq =>
      rw [hd] at heq
      cases heq
      cases hdigit
    · exact hmagnitude false
  · rw [htext]
    exact hmagnitude true
  · rw [htext]
    exact hmagnitude false

theorem strict?_text {year : Nat} (hyear : (date t).year = year) (hlt : year < 10000) :
    strict? (paddedDigits 4 year ++ textBehindYear t) = some t := by
  obtain ⟨hmonth, hday⟩ := date_lt t
  obtain ⟨hhour, hminute, hsecond⟩ := clock_lt t
  have hfour (rest : List Char) :
      fixedDigits? 4 (paddedDigits 4 year ++ rest) = some (year, rest) :=
    fixedDigits?_paddedDigits (by decide) hlt rest
  have htwo (n : Nat) (h : n < 60) (rest : List Char) :
      fixedDigits? 2 (paddedDigits 2 n ++ rest) = some (n, rest) :=
    fixedDigits?_paddedDigits (by decide) (by omega) rest
  have hinstant : instant? ⟨year, (date t).month, (date t).day⟩ (clock t) = some t := by
    rw [← hyear]
    apply instant?_date
    unfold Date.minYear Date.maxYear
    omega
  have htime (rest : List Char) : dropTimeSign? ('T' :: rest) = some rest := rfl
  have hfraction : dropFraction? ['Z'] = some ['Z'] := rfl
  have hzone : offset? ['Z'] = some 0 := rfl
  rw [strict?, textBehindYear, clockText]
  refine Option.bind_eq_some_iff.mpr ⟨_, hfour _, ?_⟩
  refine Option.bind_eq_some_iff.mpr ⟨_, expect?_self _ _, ?_⟩
  refine Option.bind_eq_some_iff.mpr ⟨_, htwo (date t).month (by omega) _, ?_⟩
  refine Option.bind_eq_some_iff.mpr ⟨_, expect?_self _ _, ?_⟩
  refine Option.bind_eq_some_iff.mpr ⟨_, htwo (date t).day (by omega) _, ?_⟩
  refine Option.bind_eq_some_iff.mpr ⟨_, htime _, ?_⟩
  refine Option.bind_eq_some_iff.mpr ⟨_, htwo (clock t).hour (by omega) _, ?_⟩
  refine Option.bind_eq_some_iff.mpr ⟨_, expect?_self _ _, ?_⟩
  refine Option.bind_eq_some_iff.mpr ⟨_, htwo (clock t).minute hminute _, ?_⟩
  refine Option.bind_eq_some_iff.mpr ⟨_, expect?_self _ _, ?_⟩
  refine Option.bind_eq_some_iff.mpr ⟨_, htwo (clock t).second hsecond _, ?_⟩
  refine Option.bind_eq_some_iff.mpr ⟨_, hfraction, ?_⟩
  refine Option.bind_eq_some_iff.mpr ⟨_, hinstant, ?_⟩
  refine Option.bind_eq_some_iff.mpr ⟨_, hzone, ?_⟩
  exact congrArg some (Int.sub_zero t)

/-- A time of day is read up to the Z behind it. -/
theorem looseClock?_clockText (t : Int) : looseClock? (clockText t) = some (clock t, ['Z']) := by
  obtain ⟨hhour, hminute, hsecond⟩ := clock_lt t
  have hcolon : ':'.isDigit = false := by decide
  have hzone : 'Z'.isDigit = false := by decide
  rw [looseClock?, clockText, looseNumber?_paddedDigits (by omega) hcolon]
  simp only [Option.bind_eq_bind, Option.bind_some, expect?_self]
  rw [looseNumber?_paddedDigits (by omega) hcolon]
  simp only [Option.bind_some, expect?_self]
  rw [looseNumber?_paddedDigits (by omega) hzone]
  rfl

/-- A date with a sign is read up to the T behind it. -/
theorem looseDate?_text {sign : Char} (hsign : sign = '-' ∨ sign = '+') (year : Nat) (t : Int) :
    ∃ d, looseDate? (sign :: (paddedDigits 4 year ++ textBehindYear t)) =
      some (d, 'T' :: clockText t) := by
  obtain ⟨hmonth, hday⟩ := date_lt t
  have hdash : '-'.isDigit = false := by decide
  have htime : 'T'.isDigit = false := by decide
  unfold textBehindYear
  obtain ⟨y, hy⟩ := looseYear?_signed hsign year
    (paddedDigits 2 (date t).month ++ '-' :: (paddedDigits 2 (date t).day ++ 'T' :: clockText t))
  refine ⟨⟨y, (date t).month, (date t).day⟩, ?_⟩
  rw [looseDate?, hy]
  simp only [Option.bind_eq_bind, Option.bind_some, expect?_self]
  rw [looseNumber?_paddedDigits (by omega) hdash]
  simp only [Option.bind_some, expect?_self]
  rw [looseNumber?_paddedDigits (by omega) htime]
  rfl

/-- With a sign before its year and a Z behind its time, a text is in no form that is read. -/
theorem read?_signed {sign : Char} (hsign : sign = '-' ∨ sign = '+') (year : Nat) (t : Int) :
    read? (sign :: (paddedDigits 4 year ++ textBehindYear t)) = none := by
  obtain ⟨d, hd⟩ := looseDate?_text hsign year t
  have hstrict : strict? (sign :: (paddedDigits 4 year ++ textBehindYear t)) = none := by
    have hdigit : sign.isDigit = false := by
      rcases hsign with rfl | rfl <;> decide
    have hfixed : fixedDigits? 4 (sign :: (paddedDigits 4 year ++ textBehindYear t)) = none := by
      simp [fixedDigits?, hdigit]
    rw [strict?, hfixed]
    rfl
  have hmoment : looseMoment? (sign :: (paddedDigits 4 year ++ textBehindYear t)) = none := by
    simp [looseMoment?, hd, expect?, looseClock?_clockText, dropFraction?]
  have hblank : blankMoment? (sign :: (paddedDigits 4 year ++ textBehindYear t)) = none := by
    have hclock : looseClock? ('T' :: clockText t) = none := rfl
    simp [blankMoment?, hd, hclock]
  have hday : looseDay? (sign :: (paddedDigits 4 year ++ textBehindYear t)) = none := by
    simp [looseDay?, hd]
  rw [read?, hstrict, hmoment, hblank, hday]
  rfl

/-- The text of a second is read as that second where its year has four digits and no sign. The text
of any other second is refused. -/
theorem timeOfText_iso (h : iso? t = some text) (now : Int) :
    Literal.timeOfText now text =
      if yearZero ≤ t ∧ t ≤ Epoch.maxSeconds then .ok t
      else .error (.unreadable text .unknownForm) := by
  have hyears := fourDigits_iff (t := t)
  unfold Literal.timeOfText
  simp only [trimBlanks_iso h, relative?_iso h, String.ofList_toList, readBinary64?_iso h]
  rcases toList_iso h with ⟨hyear, htext⟩ | ⟨hyear, sign, hsign, htext⟩
  · have hnatural : (date t).year = ((date t).year.natAbs : Int) := by omega
    have hstrict := strict?_text hnatural (by omega)
    rw [if_pos (hyears.mp hyear), htext, read?, hstrict]
    rfl
  · rw [if_neg (mt hyears.mpr hyear), htext, read?_signed hsign]

example : (Literal.timeOfText 0 "-0001-12-31T23:59:59Z").toOption = none := by decide

end Instant

end NetQuery
