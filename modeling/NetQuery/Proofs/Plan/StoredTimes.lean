import NetQuery.Library
import NetQuery.Proofs.Calendar.Texts
import NetQuery.Proofs.Number.Decimals
import NetQuery.Proofs.Plan.Split

namespace NetQuery

open Number

namespace Calendar

variable {cs rest : List Char} {width n : Nat} {c : Char}

theorem eq_append_of_fixedDigits? (h : fixedDigits? width cs = some (n, rest)) :
    ∃ digits, digits.length = width ∧ cs = digits ++ rest := by
  simp only [fixedDigits?] at h
  split at h
  · next hdigits =>
    simp only [Option.some.injEq, Prod.mk.injEq] at h
    obtain ⟨-, rfl⟩ := h
    exact ⟨cs.take width, hdigits.1, (List.take_append_drop width cs).symm⟩
  · cases h

theorem eq_cons_of_expect? (h : expect? c cs = some rest) : cs = c :: rest := by
  cases cs with
  | nil => cases h
  | cons d ds =>
    simp only [expect?, beq_iff_eq] at h
    split at h
    · next hd =>
      rw [hd, Option.some.inj h]
    · cases h

theorem dash_mem_of_strict? {t : Int} (h : strict? cs = some t) : '-' ∈ cs.dropLast := by
  obtain ⟨⟨year, behindYear⟩, hyear, h⟩ := Option.bind_eq_some_iff.mp h
  obtain ⟨behindDash, hdash, h⟩ := Option.bind_eq_some_iff.mp h
  obtain ⟨⟨month, behindMonth⟩, hmonth, -⟩ := Option.bind_eq_some_iff.mp h
  obtain ⟨digits, -, rfl⟩ := eq_append_of_fixedDigits? hyear
  obtain rfl := eq_cons_of_expect? hdash
  obtain ⟨twoDigits, htwo, rfl⟩ := eq_append_of_fixedDigits? hmonth
  have hne : twoDigits ++ behindMonth ≠ [] := by
    intro hnil
    rw [(List.append_eq_nil_iff.mp hnil).1] at htwo
    cases htwo
  rw [List.dropLast_append_of_ne_nil (List.cons_ne_nil _ _), List.dropLast_cons_of_ne_nil hne]
  simp

end Calendar

variable {cs : List Char} {s : String} {t now : Int}

/-- What ends a number is no unit of time. -/
theorem unitSeconds?_of_endsNumber {c : Char} (h : endsNumber c = true) :
    unitSeconds? c = none := by
  unfold unitSeconds?
  split <;> first | rfl | (revert h; decide)

/-- A number is no amount of time. -/
theorem relative?_of_readBinary64? {x : Binary64} (h : readBinary64? s = some x) :
    relative? s.toList = none := by
  refine Option.eq_none_iff_forall_ne_some.mpr ?_
  rintro ⟨digits, unit⟩ hrelative
  obtain ⟨⟨c, hlast, hunit⟩, -⟩ := relative?_eq_some hrelative
  obtain ⟨-, d, hlast', hd⟩ := ends_of_readBinary64? h
  obtain rfl : c = d := Option.some.inj (hlast.symm.trans hlast')
  rw [unitSeconds?_of_endsNumber hd] at hunit
  cases hunit

/-- A date in the strict form is no amount of time. -/
theorem relative?_of_strict? (h : Calendar.strict? cs = some t) : relative? cs = none := by
  refine Option.eq_none_iff_forall_ne_some.mpr ?_
  rintro ⟨digits, unit⟩ hrelative
  have hdigit := (relative?_eq_some hrelative).2 '-' (Calendar.dash_mem_of_strict? h)
  revert hdigit
  decide

namespace Literal

theorem epoch_eq_ok {x : Binary64} (text : String) (h : (Epoch.seconds x).toOption = some t) :
    epoch text x = .ok t := by
  cases hx : Epoch.seconds x with
  | error fault =>
    rw [hx] at h
    cases h
  | ok u =>
    rw [hx] at h
    cases h
    rw [epoch, hx]

/-- A text in a record tells the second that it tells as a literal. -/
theorem timeOfText_of_ofRecordText? (h : Epoch.ofRecordText? s = some t) (now : Int) :
    timeOfText now s = .ok t := by
  simp only [Epoch.ofRecordText?] at h
  simp only [timeOfText]
  cases hx : readBinary64? (String.ofList (Text.trimBlanks s.toList)) with
  | some x =>
    simp only [hx] at h
    have hrelative := relative?_of_readBinary64? hx
    rw [String.toList_ofList] at hrelative
    simp only [hrelative, epoch_eq_ok _ h]
  | none =>
    simp only [hx] at h
    have hread : Calendar.read? (Text.trimBlanks s.toList) = some t := by
      rw [Calendar.read?, h]
      rfl
    simp only [relative?_of_strict? h, hread]

/-- Zeros tell no second. -/
theorem seconds_zero (negative : Bool) :
    (Epoch.seconds (.finite negative 0 0)).toOption = none := by
  cases negative <;> decide +kernel

/-- What whole numbers and decimals are written with. -/
def isNumeralChar (c : Char) : Bool :=
  c.isDigit || ['+', '-', '.'].contains c

theorem trimBlanks_of_isNumeralChar (h : ∀ c ∈ cs, isNumeralChar c = true) :
    Text.trimBlanks cs = cs := by
  refine Text.trimBlanks_of_not_blank fun c hc => ?_
  have hcases : c.isDigit = true ∨ c = '+' ∨ c = '-' ∨ c = '.' := by
    simpa [isNumeralChar] using h c hc
  rcases hcases with hdigit | rfl | rfl | rfl
  · exact Text.not_blank_of_isDigit hdigit
  · decide
  · decide
  · decide

theorem isNumeralChar_of_readInteger? {k : Int} (h : readInteger? cs = some k) :
    ∀ c ∈ cs, isNumeralChar c = true := by
  obtain ⟨digits, n, hread, hcases⟩ := exists_digits_of_readInteger? h
  have hdigits : ∀ c ∈ digits, isNumeralChar c = true := by
    intro c hc
    rw [isNumeralChar, (readDigits?_eq_some_iff.mp hread).2.1 c hc, Bool.true_or]
  rcases hcases with ⟨rfl, -⟩ | ⟨rfl | rfl, -⟩
  · exact List.forall_mem_cons.mpr ⟨rfl, hdigits⟩
  · exact List.forall_mem_cons.mpr ⟨rfl, hdigits⟩
  · exact hdigits

theorem isNumeralChar_of_looksDecimal (h : looksDecimal cs = true) :
    ∀ c ∈ cs, isNumeralChar c = true := by
  have hbody {body : List Char} (hall : body.all (fun c => c.isDigit || c == '.') = true) :
      ∀ c ∈ body, isNumeralChar c = true := by
    intro c hc
    have hcases : c.isDigit = true ∨ c = '.' := by
      simpa using List.all_eq_true.mp hall c hc
    rcases hcases with hdigit | rfl
    · rw [isNumeralChar, hdigit, Bool.true_or]
    · rfl
  simp only [looksDecimal, Bool.and_eq_true] at h
  obtain ⟨⟨-, hall⟩, -⟩ := h
  split at hall
  · exact List.forall_mem_cons.mpr ⟨rfl, hbody hall⟩
  · exact hbody hall

/-- The second of a number's text is that of the number. -/
theorem seconds_of_ofRecordText? {x : Binary64} (h : Epoch.ofRecordText? s = some t)
    (hchars : ∀ c ∈ s.toList, isNumeralChar c = true) (hx : readBinary64? s = some x) :
    (Epoch.seconds x).toOption = some t := by
  simpa only [Epoch.ofRecordText?, trimBlanks_of_isNumeralChar hchars, String.ofList_toList, hx]
    using h

/-- A word tells the second that its text tells, whether it is taken for a number or not. -/
theorem time_ofWord (h : Epoch.ofRecordText? s = some t) (now : Int) :
    (ofWord s).time now = .ok t := by
  unfold ofWord
  split
  · next k hk =>
    have hread := (Option.filter_eq_some_iff.mp hk).1
    obtain ⟨negative, n, hx, rfl⟩ := readBinary64?_of_readInteger? hread
    have hseconds := seconds_of_ofRecordText? h (isNumeralChar_of_readInteger? hread) hx
    have hn : n ≠ 0 := by
      rintro rfl
      rw [Binary64.ofDecimal, if_pos rfl, seconds_zero] at hseconds
      cases hseconds
    rw [ofDecimal_zero_exponent negative hn] at hseconds
    exact epoch_eq_ok _ hseconds
  · split
    · next hdecimal =>
      split
      · next x hx =>
        have hread := (Option.filter_eq_some_iff.mp hx).1
        have hchars := isNumeralChar_of_looksDecimal hdecimal
        exact epoch_eq_ok _ (seconds_of_ofRecordText? h hchars hread)
      · exact timeOfText_of_ofRecordText? h now
    · exact timeOfText_of_ofRecordText? h now

end Literal

namespace Query

/-- A text in a record that tells a second tells it as a literal too, at any moment, whether the
literal is quoted or a word. So the range from that text to itself accepts the record. -/
theorem accepts_range_of_stored_time [Regex.Library] (h : Epoch.ofRecord? (.str s) = some t) :
    (∀ now, Literal.timeOfText now s = .ok t) ∧
      ∀ setting name literal, literal = .text s ∨ literal = .ofWord s →
        setting.entity.kind? name = some .timestamp →
        literal.time setting.now = .ok t ∧
          ∃ P, (range name (some literal) (some literal) true).predicate setting = .ok P ∧
            ∀ r, r.get? name = some (.str s) → P r = true := by
  have htext : Epoch.ofRecordText? s = some t := h
  have hread := Literal.timeOfText_of_ofRecordText? htext
  refine ⟨hread, ?_⟩
  intro setting name literal hliteral hkind
  have htime : literal.time setting.now = .ok t := by
    rcases hliteral with rfl | rfl
    · exact hread setting.now
    · exact Literal.time_ofWord htext setting.now
  have hwindow : Window.ofRange setting (some literal) (some literal) true =
      .ok ⟨some (t + 0), some (t - 0)⟩ := by
    simp [Window.ofRange, Window.boundTime, htime, Except.map, bind, Except.bind]
  refine ⟨htime, Predicate.inWindow name ⟨some (t + 0), some (t - 0)⟩, ?_, ?_⟩
  · simp [predicate, hkind, Filter.mapError_of_ok hwindow, Except.map]
  · intro r hget
    rw [Predicate.inWindow, hget, Option.bind_some, h, Option.any_some]
    simp [Window.contains]

/-- An hour ahead of UTC, with blanks around, and the milliseconds of the same moment. -/
theorem accepts_range_of_stored_time_of_offset :
    let setting : Setting := ⟨.flows, 0, none⟩
    (∀ now, Literal.timeOfText now " 2024-01-15t15:35:42.5+01:00 " = .ok 1705329342) ∧
      ∃ P, (range "ts" (some (.ofWord "1705329342999")) (some (.ofWord "1705329342999"))
          true).predicate setting = .ok P ∧
        P ⟨.flows, .obj [("ts", .str "1705329342999")]⟩ = true := by
  intro setting
  have hdate : Epoch.ofRecord? (.str " 2024-01-15t15:35:42.5+01:00 ") = some 1705329342 := by
    decide
  have hepoch : Epoch.ofRecord? (.str "1705329342999") = some 1705329342 := by decide +kernel
  have hkind : setting.entity.kind? "ts" = some .timestamp := rfl
  have hget : Record.get? ⟨.flows, .obj [("ts", .str "1705329342999")]⟩ "ts" =
      some (.str "1705329342999") := rfl
  have hread := (accepts_range_of_stored_time hdate).1
  obtain ⟨-, hrange⟩ := accepts_range_of_stored_time hepoch
  obtain ⟨-, P, hP, haccepts⟩ := hrange setting "ts" (.ofWord "1705329342999") (.inr rfl) hkind
  exact ⟨hread, P, hP, haccepts _ hget⟩

end Query

end NetQuery
