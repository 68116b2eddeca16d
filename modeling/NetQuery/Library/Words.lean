import NetQuery.Library.Utf8
import NetQuery.Regex.Expr

namespace NetQuery.Regex

abbrev Words := List (List UInt8)

namespace Words

def maxCount : Nat := 250

def maxLength : Nat := 100

def maxSetSize : Nat := 10

def maxTimes : Nat := 10

def short? (ws : Words) : Option Words :=
  if ws.all fun w => w.length ≤ maxLength then some ws else none

def union? (s t : Words) : Option Words :=
  if s.length + t.length ≤ maxCount then some (s ++ t).eraseReps else none

def cross? (s t : Words) : Option Words :=
  if s.length * t.length ≤ maxCount then
    short? (s.flatMap fun w => t.map (w ++ ·)).eraseReps
  else none

def power? (ws : Words) : Nat → Words → Option Words
  | 0, done => some done
  | count + 1, done => if done.isEmpty then some [] else (cross? done ws).bind (power? ws count)

/-- The list if it is empty; other lists are only what longer words begin with. -/
def ifNone? (ws : Words) : Option Words :=
  if ws.isEmpty then some [] else none

end Words

namespace Expr

mutual

/-- The words that an expression matches, if that is all it matches. -/
def words? : Expr → Option Words
  | empty | assertion _ => some [[]]
  | literal text => Words.short? [Utf8.encode text]
  | set _ chars =>
    if chars.size ≤ Words.maxSetSize then some (chars.toList.map fun c => Utf8.encode [c]) else none
  | times least most greedy body =>
    match body.words? with
    | none => none
    | some ws =>
      if least = 0 then
        if most = some 1 then if greedy then Words.union? ws [[]] else Words.union? [[]] ws
        else if ws.isEmpty then some [[]]
        else none
      else
        let written := Words.power? ws (min least Words.maxTimes) [[]]
        if most = some least && least ≤ Words.maxTimes then written
        else written.bind Words.ifNone?
  | capture _ body => body.words?
  | sequence parts => wordsInTurn? parts [[]]
  | choice branches => wordsOfAny? branches []

def wordsInTurn? : List Expr → Words → Option Words
  | [], done => some done
  | e :: es, done =>
    if done.isEmpty then some []
    else
      match e.words? with
      | some ws => (Words.cross? done ws).bind (wordsInTurn? es)
      | none => none

def wordsOfAny? : List Expr → Words → Option Words
  | [], done => some done
  | e :: es, done =>
    match e.words? with
    | some ws => (Words.union? done ws).bind (wordsOfAny? es)
    | none => none

end

end Expr

namespace Words

/-- Drops words that begin with one before them. With each word stands whether it is whole. -/
def preferredFrom (kept : List (List UInt8 × Bool)) :
    List (List UInt8 × Bool) → List (List UInt8 × Bool)
  | [] => kept.reverse
  | w :: ws =>
    preferredFrom (if kept.any fun k => k.1.isPrefixOf w.1 then kept else w :: kept) ws

def cut (length : Nat) (ws : List (List UInt8 × Bool)) : List (List UInt8 × Bool) :=
  ws.map fun w => if w.1.length ≤ length then w else (w.1.take length, false)

/-- Cuts the words of a list with more than `limit` of them, for each length and limit in turn
until the list is short enough. -/
def shortened : List (Nat × Nat) → List (List UInt8 × Bool) → List (List UInt8 × Bool)
  | [], ws => ws
  | (length, limit) :: more, ws =>
    if ws.length ≤ limit then ws else shortened more (preferredFrom [] (cut length ws))

/-- What is tried to get fewer words, each length with the count from which on it is. -/
def attempts : List (Nat × Nat) := [(5, 10), (4, 10), (3, 64), (2, 64), (1, 10)]

def commonStart : List UInt8 → List UInt8 → List UInt8
  | a :: as, b :: bs => if a = b then a :: commonStart as bs else []
  | _, _ => []

def frequentBytes : List UInt8 :=
  ("\n\x0d abcdefghilmnoprstuvxy0129.-/:,()_|".toList.map fun c => c.toNat.toUInt8)

def firstLongLead : UInt8 := 0xc0

def isRare (b : UInt8) : Bool :=
  !frequentBytes.contains b && b < firstLongLead

/-- Whether a list is searched for word by word. It is not if a rare first byte or a longer common
start is to be searched for instead, or if cut words are few and long enough. -/
def areSearched (ws : Words) : Bool :=
  let kept := preferredFrom [] (ws.map fun w => (w, true))
  match kept with
  | [] => false
  | (first, _) :: rest =>
    let start := rest.foldl (fun start w => commonStart start w.1) first
    let rareStart := 1 < ws.length && start.length ≤ 3 && start.head?.any isRare
    let cut := shortened attempts kept
    if ws.any List.isEmpty then false
    else if rareStart then rest.isEmpty && first.length ≤ 1
    else if rest.isEmpty then true
    else if 4 < start.length || (1 < start.length && 16 < kept.length) then false
    else cut.all (·.2) || 64 < cut.length || cut.any fun w => w.1.length ≤ 2

/-- From so many words on a list is searched for in any case. -/
def manyCount : Nat := 3000

end Words

namespace Expr

mutual

def hasAssertion : Expr → Bool
  | assertion _ => true
  | times _ _ _ body => body.hasAssertion
  | capture _ body => body.hasAssertion
  | sequence parts => someHasAssertion parts
  | choice branches => someHasAssertion branches
  | _ => false

def someHasAssertion : List Expr → Bool
  | [] => false
  | e :: es => e.hasAssertion || someHasAssertion es

end

mutual

def hasCapture : Expr → Bool
  | capture _ _ => true
  | times _ _ _ body => body.hasCapture
  | sequence parts => someHasCapture parts
  | choice branches => someHasCapture branches
  | _ => false

def someHasCapture : List Expr → Bool
  | [] => false
  | e :: es => e.hasCapture || someHasCapture es

end

def isChoiceOfMany : Expr → Bool
  | choice branches =>
    Words.manyCount ≤ branches.length && branches.all fun e => e.literal?.isSome
  | _ => false

def isListOfWords (e : Expr) : Bool :=
  !e.hasAssertion && !e.hasCapture && (e.words?.any Words.areSearched || e.isChoiceOfMany)

example : (Expr.alternatives [literal ['a', 'b'], fail]).isListOfWords := by decide

end Expr

end NetQuery.Regex
