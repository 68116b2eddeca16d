import NetQuery.Proofs.Calendar.Limits
import NetQuery.Proofs.Plan.Windows

namespace NetQuery

open Number Instant

inductive WordFault where
  | overflow
  | time (error : TimeError)
  deriving DecidableEq, Repr

/-- A whole number as a word of 64 bits with a sign. -/
def word (n : Int) : Except WordFault Int :=
  if minInt64 ≤ n ∧ n ≤ maxInt64 then .ok n else .error .overflow

namespace Literal

/-- The second that a text tells, computed in words. An amount is a word without a sign at first. -/
def timeOfTextInWords (now : Int) (text : String) : Except WordFault Int :=
  let cs := Text.trimBlanks text.toList
  match relative? cs with
  | some (digits, unit) =>
    match (readDigits? digits).filter (· ≤ maxUInt64) with
    | some amount =>
      if amount ≤ maxAmount then do
        let factor ← word amount
        let span ← word (factor * unit)
        word (now - span)
      else .error (.time (.duration (String.ofList cs)))
    | none => .error (.time (.duration (String.ofList cs)))
  | none => do
    let t ← (timeOfText now text).mapError .time
    word t

def timeInWords (now : Int) : Literal → Except WordFault Int
  | text s => timeOfTextInWords now s
  | literal => do
    let t ← (literal.time now).mapError .time
    word t

end Literal

namespace Window

def boundInWords (now : Int) : Option Literal → Except WordFault (Option Int)
  | none => .ok none
  | some literal => (literal.timeInWords now).map some

def aroundInWords (setting : Setting) (t : Int) : Except WordFault Window := do
  let first ← word (t - margin setting)
  let last ← word (t + margin setting)
  .ok ⟨some (max first 0), some (min last Epoch.maxSeconds)⟩

def beyondInWords (t : Int) : Comparison → Except WordFault Window
  | .gt => (word (t + 1)).map fun first => ⟨some first, none⟩
  | .ge => .ok ⟨some t, none⟩
  | .lt => (word (t - 1)).map fun last => ⟨none, some last⟩
  | .le => .ok ⟨none, some t⟩

def ofRangeInWords (setting : Setting) (least greatest : Option Literal) (inclusive : Bool) :
    Except WordFault Window := do
  let first ← boundInWords setting.now least
  let last ← boundInWords setting.now greatest
  let step := if inclusive then 0 else 1
  let first ← first.mapM fun t => word (t + step)
  let last ← last.mapM fun t => word (t - step)
  .ok ⟨first, last⟩

def ofClauseInWords? (setting : Setting) : Query → Option (Except WordFault Window)
  | .field _ value _ => some (value.timeInWords setting.now >>= aroundInWords setting)
  | .range _ least greatest inclusive => some (ofRangeInWords setting least greatest inclusive)
  | .comparison _ op value => some (value.timeInWords setting.now >>= (beyondInWords · op))
  | _ => none

end Window

variable {setting : Setting} {now t n : Int}

theorem word_eq_ok (hlow : -9223372036854775808 ≤ n) (hhigh : n ≤ 9223372036854775807) :
    word n = .ok n :=
  if_pos ⟨hlow, hhigh⟩

/-- Seconds of literals have room around them, more than the widest margin. -/
theorem word_near {literal : Literal} (hnow : InCalendar now) (h : literal.time now = .ok t)
    (hlow : t - Epoch.maxSeconds ≤ n) (hhigh : n ≤ t + Epoch.maxSeconds) : word n = .ok n := by
  have hfirst := first_eq
  have hlast := last_eq
  have hrange := Literal.time_range hnow h
  unfold Epoch.maxSeconds at hlow hhigh
  unfold longestAmount at hrange
  exact word_eq_ok (by omega) (by omega)

/-- The second of a literal is a word, and so are its neighbours. -/
theorem word_beside {literal : Literal} (hnow : InCalendar now) (h : literal.time now = .ok t)
    (hlow : t - 1 ≤ n) (hhigh : n ≤ t + 1) : word n = .ok n :=
  word_near hnow h (by unfold Epoch.maxSeconds; omega) (by unfold Epoch.maxSeconds; omega)

namespace Literal

theorem bind_word_time (hnow : InCalendar now) (literal : Literal) :
    ((literal.time now).mapError WordFault.time >>= word) =
      (literal.time now).mapError WordFault.time := by
  cases htime : literal.time now with
  | error e => rfl
  | ok t => exact word_beside hnow htime (by omega) (by omega)

/-- An amount of time before now in words is that in whole numbers. -/
theorem word_relative {cs digits : List Char} {amount unit : Nat} (hnow : InCalendar now)
    (h : relative? cs = some (digits, unit)) (hamount : amount ≤ maxAmount) :
    (do
      let factor ← word amount
      let span ← word (factor * unit)
      word (now - span)) = .ok (now - (amount * unit : Nat)) := by
  have hspan := amount_le h hamount
  have hfirst := first_eq
  have hlast := last_eq
  unfold longestAmount at hspan
  unfold maxAmount at hamount
  unfold InCalendar at hnow
  have hfactor : word amount = .ok (amount : Int) := word_eq_ok (by omega) (by omega)
  have hproduct : word ((amount : Int) * unit) = .ok ((amount * unit : Nat) : Int) := by
    rw [← Int.natCast_mul]
    exact word_eq_ok (by omega) (by omega)
  have hdifference : word (now - (amount * unit : Nat)) = .ok (now - (amount * unit : Nat)) :=
    word_eq_ok (by omega) (by omega)
  simp only [hfactor, hproduct, hdifference, bind, Except.bind]

theorem timeInWords_eq (hnow : InCalendar now) (literal : Literal) :
    literal.timeInWords now = (literal.time now).mapError .time := by
  have hplain := bind_word_time hnow literal
  cases literal with
  | int n => exact hplain
  | float x => exact hplain
  | text s =>
    simp only [timeInWords, timeOfTextInWords]
    split
    · next digits unit hrelative =>
      simp only [time, timeOfText, hrelative]
      cases hread : readDigits? digits with
      | none => rfl
      | some amount =>
        by_cases hamount : amount ≤ maxAmount
        · have hword : amount ≤ maxUInt64 := Nat.le_trans hamount (by decide)
          simp only [Option.filter_some, hword, hamount, decide_true, if_true,
            word_relative hnow hrelative hamount]
          rfl
        · by_cases hword : amount ≤ maxUInt64
          · simp only [Option.filter_some, hword, hamount, decide_true, decide_false, if_true,
              Bool.false_eq_true, if_false]
            rfl
          · simp only [Option.filter_some, hword, hamount, decide_false, Bool.false_eq_true,
              if_false]
            rfl
    · exact hplain

end Literal

namespace Window

theorem boundInWords_eq (hnow : InCalendar now) (bound : Option Literal) :
    boundInWords now bound = (boundTime now bound).mapError .time := by
  cases bound with
  | none => rfl
  | some literal =>
    rw [boundInWords, Literal.timeInWords_eq hnow, boundTime]
    cases literal.time now <;> rfl

/-- Where a bound is moved by a second at most, it is a word still. -/
theorem word_bound {bound : Option Literal} {read : Option Int} (hnow : InCalendar now)
    (h : boundTime now bound = .ok read) (move : Int → Int)
    (hmove : ∀ t, t - 1 ≤ move t ∧ move t ≤ t + 1) :
    (read.mapM fun t => word (move t)) = .ok (read.map move) := by
  cases bound with
  | none =>
    cases h
    rfl
  | some literal =>
    cases htime : literal.time now with
    | error e =>
      rw [boundTime, htime] at h
      cases h
    | ok t =>
      rw [boundTime, htime] at h
      cases h
      have hword := word_beside hnow htime (hmove t).1 (hmove t).2
      simp only [Option.mapM_some, hword]
      rfl

theorem margin_range (setting : Setting) :
    0 ≤ margin setting ∧ margin setting ≤ Epoch.maxSeconds := by
  unfold margin Epoch.maxSeconds
  omega

variable {literal : Literal}

theorem aroundInWords_eq (hnow : InCalendar setting.now) (h : literal.time setting.now = .ok t) :
    aroundInWords setting t = .ok (around setting t) := by
  have hmargin := margin_range setting
  have hfirst : word (t - margin setting) = .ok (t - margin setting) :=
    word_near hnow h (by omega) (by omega)
  have hlast : word (t + margin setting) = .ok (t + margin setting) :=
    word_near hnow h (by omega) (by omega)
  simp only [aroundInWords, hfirst, hlast, bind, Except.bind, around]

theorem beyondInWords_eq (hnow : InCalendar now) (h : literal.time now = .ok t) (op : Comparison) :
    beyondInWords t op = .ok (beyond t op) := by
  have hnext : word (t + 1) = .ok (t + 1) := word_beside hnow h (by omega) (by omega)
  have hbefore : word (t - 1) = .ok (t - 1) := word_beside hnow h (by omega) (by omega)
  cases op <;> simp only [beyondInWords, hnext, hbefore, Except.map, beyond]

theorem ofRangeInWords_eq (hnow : InCalendar setting.now) (least greatest : Option Literal)
    (inclusive : Bool) : ofRangeInWords setting least greatest inclusive =
      (ofRange setting least greatest inclusive).mapError .time := by
  simp only [ofRangeInWords, ofRange, boundInWords_eq hnow]
  generalize hstep : (if inclusive = true then (0 : Int) else 1) = step
  have hsmall : 0 ≤ step ∧ step ≤ 1 := by
    rw [← hstep]
    split <;> decide
  cases hleast : boundTime setting.now least with
  | error e => rfl
  | ok low =>
    cases hgreatest : boundTime setting.now greatest with
    | error e => rfl
    | ok high =>
      have hfirst := word_bound hnow hleast (· + step) (by omega)
      have hlast := word_bound hnow hgreatest (· - step) (by omega)
      simp only [Filter.mapError_of_ok rfl, bind, Except.bind, hfirst, hlast]

/-- While now is a second of the calendar, times and windows in words of 64 bits are those in whole
numbers, with the same errors and no overflow. The window of an equality has two ends, which lie
within the supported seconds on their sides. -/
theorem ofClauseInWords?_eq (hnow : InCalendar setting.now) :
    (∀ literal : Literal,
      literal.timeInWords setting.now = (literal.time setting.now).mapError .time) ∧
    (∀ q, ofClauseInWords? setting q = (ofClause? setting q).map (·.mapError .time)) ∧
    ∀ name value relation w, ofClause? setting (.field name value relation) = some (.ok w) →
      ∃ first last, w = ⟨some first, some last⟩ ∧ 0 ≤ first ∧ last ≤ Epoch.maxSeconds := by
  refine ⟨Literal.timeInWords_eq hnow, ?_, ?_⟩
  · intro q
    cases q with
    | field name value relation =>
      rw [ofClauseInWords?, Literal.timeInWords_eq hnow, ofClause?, Option.map_some]
      cases htime : value.time setting.now with
      | error e => rfl
      | ok t => exact congrArg some (aroundInWords_eq hnow htime)
    | range name least greatest inclusive =>
      rw [ofClauseInWords?, ofRangeInWords_eq hnow, ofClause?, Option.map_some]
    | comparison name op value =>
      rw [ofClauseInWords?, Literal.timeInWords_eq hnow, ofClause?, Option.map_some]
      cases htime : value.time setting.now with
      | error e => rfl
      | ok t => exact congrArg some (beyondInWords_eq hnow htime op)
    | _ => rfl
  · intro name value relation w hw
    cases htime : value.time setting.now with
    | error e => simp [ofClause?, htime, Except.map] at hw
    | ok t =>
      simp only [ofClause?, htime, Except.map, Option.some.injEq, Except.ok.injEq] at hw
      exact ⟨_, _, hw.symm, Int.le_max_right _ _, Int.min_le_right _ _⟩

/-- The longest amount of time before the first second of the calendar, with the widest tolerance
that a word holds. -/
theorem ofClauseInWords?_eq_of_first_second :
    let setting : Setting := ⟨.flows, Instant.first, some maxInt64⟩
    ofClauseInWords? setting (.field "ts" (.text "1000000w") none) =
        some (.ok ⟨some 0, some (-8685998928001)⟩) ∧
      ofClauseInWords? setting (.comparison "ts" .lt (.text "1000000w")) =
        some (.ok ⟨none, some (-8939401228801)⟩) := by
  intro setting
  have hnow : InCalendar setting.now := ⟨Int.le_refl _, by decide⟩
  obtain ⟨-, hwindows, -⟩ := ofClauseInWords?_eq hnow
  refine ⟨?_, ?_⟩
  · rw [hwindows]
    decide +kernel
  · rw [hwindows]
    decide +kernel

end Window

end NetQuery
