import Std.Data.TreeMap
import NetQuery.Library.Utf8
import NetQuery.Regex.Library

namespace NetQuery.Regex

inductive Direction where
  | forward
  | backward
  deriving DecidableEq, Repr

/-- What has been built of an automaton; its states are numbered in the order of building. -/
structure Automaton where
  states : Nat
  /-- Bytes of what leads on from forks and states with several ranges. -/
  links : Nat
  deriving DecidableEq, Repr

namespace Automaton

def stateSize : Nat := 32

def branchSize : Nat := 4

def rangeSize : Nat := 8

def size (a : Automaton) : Nat :=
  stateSize * a.states + a.links

def isTooLarge (a : Automaton) : Bool :=
  maxSize < a.size

def addStates (a : Automaton) (count : Nat) : Automaton :=
  { a with states := a.states + count }

def addBranches (a : Automaton) (count : Nat) : Automaton :=
  { a with links := a.links + branchSize * count }

def addRanges (a : Automaton) (count : Nat) : Automaton :=
  { a with links := a.links + rangeSize * count }

/-- Builds the same part so many times, unless the automaton is too large before. -/
def copies (part : Automaton → Automaton) : Nat → Automaton → Automaton
  | 0, a => a
  | count + 1, a => if a.isTooLarge then a else copies part count (part a)

structure SharedStates where
  automaton : Automaton
  slotCount : Nat
  slots : Std.TreeMap Nat (List Nat × Nat)

namespace SharedStates

def slotSeed : UInt64 := 14695981039346656037

def slotFactor : UInt64 := 1099511628211

def slotHash (key : List Nat) : UInt64 :=
  key.foldl (fun h n => (h ^^^ n.toUInt64) * slotFactor) slotSeed

/-- The state that leads on as `key` says, built unless it is remembered. -/
def state (s : SharedStates) (key : List Nat) (build : Automaton → Automaton) :
    Nat × SharedStates :=
  let slot := (slotHash key).toNat % s.slotCount
  let fresh : Nat × SharedStates :=
    let number := s.automaton.states
    (number, { s with automaton := build s.automaton, slots := s.slots.insert slot (key, number) })
  match s.slots[slot]? with
  | some (known, number) => if known == key then (number, s) else fresh
  | none => fresh

end SharedStates

def forwardSlots : Nat := 10000

def backwardSlots : Nat := 1000

/-- The state from which the sequences, which are in order, lead to `target`. States with the same
ways on are one. -/
def joined (target : Nat) : Nat → List (List Utf8.ByteRange) → SharedStates → Nat × SharedStates
  | 0, _, s => (target, s)
  | depth + 1, sequences, s =>
    let groups := sequences.splitBy fun p q => p.head? == q.head?
    let (key, s) := groups.foldl (fun (key, s) group =>
      match group with
      | (range :: []) :: _ => (key ++ [range.1, range.2, target], s)
      | (range :: _) :: _ =>
        let (next, s) := joined target depth (group.map List.tail) s
        (key ++ [range.1, range.2, next], s)
      | _ => (key, s)) ([], s)
    s.state key fun a => (a.addStates 1).addRanges (key.length / 3)

/-- States for one sequence that is read backward. Sequences that begin alike share what they begin
with, which is read last. -/
def chain (finish : Nat) (sequence : List Utf8.ByteRange) (s : SharedStates) : SharedStates :=
  let (_, s) := sequence.foldl (fun (next, s) range =>
    s.state [next, range.1, range.2] fun a => a.addStates 1) (finish, s)
  { s with automaton := s.automaton.addBranches 1 }

def longestEncoding : Nat := 4

/-- Builds a set of characters. One of ASCII needs a single state and its end. -/
def addSet (d : Direction) (chars : CharSet) (a : Automaton) : Automaton :=
  if chars.isAscii then (a.addStates 2).addRanges chars.ranges.length
  else
    let sequences := Utf8.sequences chars
    match d with
    | .forward =>
      let start : SharedStates := ⟨a.addStates 1, forwardSlots, ∅⟩
      (joined a.states longestEncoding sequences start).2.automaton
    | .backward =>
      let start : SharedStates := ⟨a.addStates 2, backwardSlots, ∅⟩
      (sequences.foldl (fun s sequence => chain (a.states + 1) sequence s) start).automaton

/-- The words in runs between those that are empty. -/
def runs : List (List UInt8) → List (List (List UInt8))
  | [] => [[]]
  | [] :: words => [] :: runs words
  | word :: words =>
    match runs words with
    | run :: later => (word :: run) :: later
    | [] => [[word]]

def tailsByFirst (words : List (List UInt8)) : List (List (List UInt8)) :=
  (words.filterMap List.head?).eraseDups.map fun first =>
    (words.filter (·.head? == some first)).map List.tail

/-- The start of words: a fork with a branch for each run and for each end of a word between them.
Ends of words in front count once. Words that all are empty need no state of their own. -/
def addWordsFrom : Nat → List (List UInt8) → Automaton → Automaton
  | 0, _, a => a
  | depth + 1, words, a =>
    if words.all List.isEmpty then a
    else
      let groups := (runs words).map tailsByFirst
      let repeatedEnds := (groups.takeWhile List.isEmpty).length - 1
      let filled := groups.filter (!·.isEmpty)
      let several := filled.filter fun group => 2 ≤ group.length
      let a := (a.addStates (1 + filled.length)).addBranches
        (filled.length + (groups.length - 1) - repeatedEnds)
      let a := a.addRanges (several.map List.length).sum
      filled.flatten.foldl (fun a tails => addWordsFrom depth tails a) a

def addWords (d : Direction) (words : List (List UInt8)) (a : Automaton) : Automaton :=
  let words := if d = .forward then words else words.map List.reverse
  let depth := ((words.map List.length).max?).getD 0 + 1
  addWordsFrom depth words (a.addStates 1)

end Automaton

namespace Expr

mutual

/-- The least number of bytes that an expression can match, if it can match at all. -/
def leastBytes? : Expr → Option Nat
  | empty => some 0
  | literal text => some (text.map Char.utf8Size).sum
  | set _ chars => chars.first?.map Char.utf8Size
  | assertion _ => some 0
  | times least _ _ body => body.leastBytes?.map (least * ·)
  | capture _ body => body.leastBytes?
  | sequence parts => (allLeastBytes? parts).map List.sum
  | choice branches => (allLeastBytes? branches).bind List.min?

def allLeastBytes? : List Expr → Option (List Nat)
  | [] => some []
  | e :: es =>
    match e.leastBytes?, allLeastBytes? es with
    | some n, some ns => some (n :: ns)
    | _, _ => none

end

mutual

def startsText : Expr → Bool
  | assertion a => a == .textStart
  | times least _ _ body => 0 < least && body.startsText
  | capture _ body => body.startsText
  | sequence parts => someStartsText parts
  | choice branches => allStartText branches
  | _ => false

/-- A part of a sequence counts if only blank ones stand before it. -/
def someStartsText : List Expr → Bool
  | [] => false
  | e :: es => e.startsText || (e.isBlank && someStartsText es)

def allStartText : List Expr → Bool
  | [] => true
  | e :: es => e.startsText && allStartText es

end

mutual

def endsText : Expr → Bool
  | assertion a => a == .textEnd
  | times least _ _ body => 0 < least && body.endsText
  | capture _ body => body.endsText
  | sequence parts => someEndsText parts
  | choice branches => allEndText branches
  | _ => false

/-- A part of a sequence counts if only blank ones stand after it. -/
def someEndsText : List Expr → Bool
  | [] => false
  | e :: es => someEndsText es || (allBlank es && e.endsText)

def allEndText : List Expr → Bool
  | [] => true
  | e :: es => e.endsText && allEndText es

end

mutual

/-- Whether the last state of an expression is a fork; leading on from it takes a branch more. -/
def endsInFork (d : Direction) : Expr → Bool
  | times least most _ body =>
    match most with
    | none => 0 < least || body.leastBytes?.any (0 < ·)
    | some most => least == most && body.endsInFork d
  | capture _ body => d == .backward && body.endsInFork d
  | sequence parts => lastEndsInFork d parts
  | _ => false

/-- The same of a sequence, whose last part is the first one backward. -/
def lastEndsInFork (d : Direction) : List Expr → Bool
  | [] => false
  | e :: es => if es.isEmpty || d == .backward then e.endsInFork d else lastEndsInFork d es

end

def forkBranch (d : Direction) (e : Expr) : Nat :=
  if e.endsInFork d then 1 else 0

/-- A branch for each part that ends in a fork and is led on from within a sequence. -/
def innerBranches (d : Direction) (parts : List Expr) : Nat :=
  ((if d = .forward then parts.dropLast else parts.tail).map (forkBranch d)).sum

end Expr

mutual

def Automaton.add (d : Direction) : Expr → Automaton → Automaton
  | .empty, a => a.addStates 1
  | .literal text, a => a.addStates (Utf8.encode text).length
  | .set _ chars, a => a.addSet d chars
  | .assertion _, a => a.addStates 1
  | .capture _ body, a =>
    match d with
    | .forward =>
      ((Automaton.add d body (a.addStates 1)).addStates 1).addBranches (body.forkBranch d)
    | .backward => Automaton.add d body a
  | .sequence parts, a => (Automaton.addInTurn d parts a).addBranches (Expr.innerBranches d parts)
  | .choice branches, a =>
    match branches.mapM Expr.literal? with
    | some texts => a.addWords d (texts.map Utf8.encode)
    | none =>
      (Automaton.addBranchesOf d 2 branches a).addBranches
        (branches.length + (branches.map (Expr.forkBranch d)).sum)
  | .times least most _ body, a =>
    let fork := body.forkBranch d
    let once (a : Automaton) : Automaton := (Automaton.add d body a).addBranches fork
    match most with
    | none =>
      if least = 0 then
        if body.leastBytes?.any (0 < ·) then (once (a.addStates 1)).addBranches 1
        else ((once a).addStates 3).addBranches 4
      else ((a.copies once least).addStates 1).addBranches 1
    | some most =>
      if least = 0 && most = 1 then ((once (a.addStates 1)).addStates 1).addBranches 2
      else if least = most then Automaton.add d body (a.copies once (least - 1))
      else
        let a := if least = 0 then a.addStates 1 else a.copies once least
        (a.addStates 1).copies (fun a => (once (a.addStates 1)).addBranches 2) (most - least)

def Automaton.addInTurn (d : Direction) : List Expr → Automaton → Automaton
  | [], a => a
  | e :: es, a =>
    match d with
    | .forward => Automaton.addInTurn d es (Automaton.add d e a)
    | .backward => Automaton.add d e (Automaton.addInTurn d es a)

/-- Builds the branches of a choice. The fork and the common end are built when `wait` branches
are. -/
def Automaton.addBranchesOf (d : Direction) (wait : Nat) : List Expr → Automaton → Automaton
  | [], a => a
  | e :: es, a =>
    let a := Automaton.add d e a
    Automaton.addBranchesOf d (wait - 1) es (if wait = 1 then a.addStates 2 else a)

end

namespace Automaton

/-- What comes before an expression that is found anywhere in a text: a repetition of any byte. -/
def search : Automaton := ⟨3, rangeSize + 2 * branchSize⟩

/-- What comes before an expression that stands at the edge of a text. -/
def atEdge : Automaton := ⟨1, 0⟩

/-- The automaton of an expression. Forward, it notes where the match begins and ends. -/
def ofExpr (d : Direction) (e : Expr) : Automaton :=
  match d with
  | .forward =>
    let a := if e.startsText then atEdge else search
    (((a.addStates 1).add d e).addStates 2).addBranches (e.forkBranch d)
  | .backward =>
    let a := if e.endsText then atEdge else search
    ((a.add d e).addStates 1).addBranches (e.forkBranch d)

def fits (e : Expr) : Bool :=
  !(ofExpr .forward e).isTooLarge && !(ofExpr .backward e).isTooLarge

example : (ofExpr .forward (.char 'a')).size = 32 * 7 + 16 := by decide

end Automaton

end NetQuery.Regex
