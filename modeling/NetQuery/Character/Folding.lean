import NetQuery.Character.Set
import NetQuery.Text.Folding

namespace NetQuery.CharSet

def foldedPairs (r : Text.CaseRun) : List (Nat × Nat) :=
  (List.range ((r.last - r.first) / r.step + 1)).map fun k =>
    (r.first + r.step * k, r.target + r.step * k)

def meets (s : CharSet) (lo hi : Nat) : Bool :=
  s.ranges.any fun r => r.1 ≤ hi && lo ≤ r.2

/-- What the characters of the set fold to, where it is something else. -/
def foldImages (s : CharSet) : List Nat :=
  ((Text.foldingRuns.filter fun r => s.meets r.first r.last).flatMap foldedPairs).filterMap
    fun (n, image) => if s.hasCode n then some image else none

/-- What folds to characters of the set, where it is something else. -/
def foldSources (s : CharSet) : List Nat :=
  ((Text.foldingRuns.filter fun r => s.meets r.target (r.target + (r.last - r.first))).flatMap
    foldedPairs).filterMap fun (n, image) => if s.hasCode image then some n else none

def ofCodes (codes : List Nat) : CharSet :=
  ofRanges (codes.map fun n => (n, n))

/-- The set together with all that differs from its characters in case only. -/
def foldedCase (s : CharSet) : CharSet :=
  let t := s.union (ofCodes s.foldImages)
  t.union (ofCodes t.foldSources)

def asciiCaseStep : Nat := 'a'.toNat - 'A'.toNat

def foldedAsciiCase (s : CharSet) : CharSet :=
  let capitals := (List.range 26).map ('A'.toNat + ·)
  let met := capitals.filter fun n => s.hasCode n || s.hasCode (n + asciiCaseStep)
  s.union (ofCodes (met ++ met.map (· + asciiCaseStep)))

example : (singleton 'k').foldedCase = ofText "4b 6b 212a" := by decide

end NetQuery.CharSet
