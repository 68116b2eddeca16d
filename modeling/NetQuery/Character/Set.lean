import NetQuery.Arithmetic

namespace NetQuery

structure CharSet where
  ranges : List (Nat × Nat)
  deriving DecidableEq, Repr

namespace CharSet

def maxCode : Nat := 0x10ffff

def firstSurrogate : Nat := 0xd800

def lastSurrogate : Nat := 0xdfff

def empty : CharSet := ⟨[]⟩

/-- The parts of a range on both sides of the surrogates. -/
def withoutSurrogates (r : Nat × Nat) : List (Nat × Nat) :=
  [(r.1, min r.2 (firstSurrogate - 1)), (max r.1 (lastSurrogate + 1), r.2)].filter
    fun r => r.1 ≤ r.2

/-- Adds a range behind those that begin no later; these stand in reverse. -/
def push (joined : List (Nat × Nat)) (r : Nat × Nat) : List (Nat × Nat) :=
  match joined with
  | last :: rest =>
    if r.1 ≤ last.2 + 1 then (last.1, max last.2 r.2) :: rest else r :: last :: rest
  | [] => [r]

def joined (ranges : List (Nat × Nat)) : CharSet :=
  ⟨(ranges.foldl push []).reverse⟩

/-- Puts a range in its place, and what `rest` does with the remaining ranges behind it. -/
def mergeOne (r : Nat × Nat) (rest : List (Nat × Nat) → List (Nat × Nat)) :
    List (Nat × Nat) → List (Nat × Nat)
  | [] => r :: rest []
  | s :: ss => if s.1 < r.1 then s :: mergeOne r rest ss else r :: rest (s :: ss)

def merge : List (Nat × Nat) → List (Nat × Nat) → List (Nat × Nat)
  | [], ss => ss
  | r :: rs, ss => mergeOne r (merge rs) ss

def ofRanges (ranges : List (Nat × Nat)) : CharSet :=
  joined ((ranges.flatMap withoutSurrogates).foldr (fun r later => merge [r] later) [])

def singleton (c : Char) : CharSet := ⟨[(c.toNat, c.toNat)]⟩

def between (first last : Char) : CharSet :=
  ofRanges [(first.toNat, last.toNat)]

/-- How far a written set is read: the ranges before, in reverse, the start of the current one and
the digits read last. -/
structure Reading where
  ranges : List (Nat × Nat)
  start : Option Nat
  digits : Nat

def digitValue (c : Char) : Nat :=
  if c.isDigit then c.toNat - '0'.toNat else c.toNat - 'a'.toNat + 10

def Reading.close (r : Reading) : Reading :=
  ⟨(r.start.getD r.digits, r.digits) :: r.ranges, none, 0⟩

def Reading.step (r : Reading) (c : Char) : Reading :=
  if c == ' ' then r.close
  else if c == '-' then { r with start := some r.digits, digits := 0 }
  else { r with digits := 16 * r.digits + digitValue c }

/-- Reads ranges as they are written: in order, in hexadecimal digits, one blank between two of
them and a dash between the ends of each, such as "30-39 5f". -/
def ofText (s : String) : CharSet :=
  if s.isEmpty then empty
  else ⟨((s.toList.foldl Reading.step ⟨[], none, 0⟩).close.ranges).reverse⟩

def ofLines (lines : List String) : CharSet :=
  ofText (" ".intercalate lines)

/-- What lies between the ranges, from a code point on. -/
def gapsFrom (next : Nat) : List (Nat × Nat) → List (Nat × Nat)
  | [] => if next ≤ maxCode then [(next, maxCode)] else []
  | r :: rest =>
    let later := gapsFrom (r.2 + 1) rest
    if next < r.1 then (next, r.1 - 1) :: later else later

def complement (s : CharSet) : CharSet :=
  ⟨(gapsFrom 0 s.ranges).flatMap withoutSurrogates⟩

def union (s t : CharSet) : CharSet :=
  joined (merge s.ranges t.ranges)

def unions (sets : List CharSet) : CharSet :=
  sets.foldr union empty

def diff (s t : CharSet) : CharSet :=
  (s.complement.union t).complement

def inter (s t : CharSet) : CharSet :=
  (s.complement.union t.complement).complement

def symmDiff (s t : CharSet) : CharSet :=
  (s.diff t).union (t.diff s)

def hasCode (s : CharSet) (n : Nat) : Bool :=
  s.ranges.any fun r => r.1 ≤ n && n ≤ r.2

def contains (s : CharSet) (c : Char) : Bool :=
  s.hasCode c.toNat

def isEmpty (s : CharSet) : Bool :=
  s.ranges.isEmpty

def isAscii (s : CharSet) : Bool :=
  s.ranges.all fun r => r.2 < 0x80

def size (s : CharSet) : Nat :=
  (s.ranges.map fun r => r.2 + 1 - r.1).sum

def toList (s : CharSet) : List Char :=
  s.ranges.flatMap fun r => (List.range (r.2 + 1 - r.1)).map fun k => Char.ofNat (r.1 + k)

def first? (s : CharSet) : Option Char :=
  s.ranges.head?.map fun r => Char.ofNat r.1

def single? (s : CharSet) : Option Char :=
  match s.ranges with
  | [(first, last)] => if first = last then some (Char.ofNat first) else none
  | _ => none

@[simp] theorem contains_empty (c : Char) : empty.contains c = false := rfl

@[simp] theorem contains_singleton (c d : Char) :
    (singleton c).contains d = (c.toNat ≤ d.toNat && d.toNat ≤ c.toNat) := by
  simp [contains, hasCode, singleton]

example : ofText "30-39 5f" = ⟨[(0x30, 0x39), (0x5f, 0x5f)]⟩ := by decide
example : (ofText "0-ffff").inter (ofText "d7ff-e000") = ofText "d7ff e000" := by decide

end CharSet

end NetQuery
