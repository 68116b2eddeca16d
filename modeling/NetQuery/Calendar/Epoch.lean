import NetQuery.Calendar.Reading
import NetQuery.Number.Decimal
import NetQuery.Record

namespace NetQuery.Epoch

/-- The first second of 1971. -/
def minSeconds : Int := 31536000

/-- The last second of 9999. -/
def maxSeconds : Int := 253402300799

def millisFrom : Binary64 := .ofDecimal false 1 12

def thousand : Binary64 := .ofInt 1000

inductive Fault where
  | notFinite
  | negative
  | outOfRange
  deriving DecidableEq, Repr

def Fault.message : Fault → String
  | notFinite => "not a finite number"
  | negative => "negative epoch"
  | outOfRange => "outside the supported range 1971-01-01 to 9999-12-31"

def seconds (n : Binary64) : Except Fault Int :=
  match n.floor? with
  | none => .error .notFinite
  | some whole =>
    if n.lt .zero then .error .negative
    else
      let t := if millisFrom.le n then ((n.div thousand).floor?).getD 0 else whole
      if minSeconds ≤ t ∧ t ≤ maxSeconds then .ok t else .error .outOfRange

/-- The second that a text in a record tells: an epoch number or a date in the strict form. -/
def ofRecordText? (s : String) : Option Int :=
  let cs := Text.trimBlanks s.toList
  match Number.readBinary64? (String.ofList cs) with
  | some n => (seconds n).toOption
  | none => Calendar.strict? cs

def ofRecord? : Json → Option Int
  | .int n => (seconds (.ofInt n)).toOption
  | .float x => (seconds x).toOption
  | .str s => ofRecordText? s
  | _ => none

/-- Every second that an epoch number tells is within the supported range. -/
theorem seconds_range {n : Binary64} {t : Int} (h : seconds n = .ok t) :
    minSeconds ≤ t ∧ t ≤ maxSeconds := by
  unfold seconds at h
  split at h
  · cases h
  · split at h
    · cases h
    · dsimp only at h
      generalize (if millisFrom.le n = true then _ else _ : Int) = u at h
      split at h
      · cases h; assumption
      · cases h

example : (seconds (.ofInt 1705329342999)).toOption = some 1705329342 := by decide +kernel
example : (seconds (.finite true 0 0)).toOption = none := by decide +kernel

end NetQuery.Epoch
