import NetQuery.Regex.Escape
import NetQuery.Regex.Fragment

namespace NetQuery.Regex

def asciiSetChars? (name : String) : Option CharSet :=
  match name with
  | "alnum" => some (.ofText "30-39 41-5a 61-7a")
  | "alpha" => some (.ofText "41-5a 61-7a")
  | "ascii" => some (.ofText "0-7f")
  | "blank" => some (.ofText "9 20")
  | "cntrl" => some (.ofText "0-1f 7f")
  | "digit" => some (.ofText "30-39")
  | "graph" => some (.ofText "21-7e")
  | "lower" => some (.ofText "61-7a")
  | "print" => some (.ofText "20-7e")
  | "punct" => some (.ofText "21-2f 3a-40 5b-60 7b-7e")
  | "space" => some (.ofText "9-d 20")
  | "upper" => some (.ofText "41-5a")
  | "word" => some (.ofText "30-39 41-5a 5f 61-7a")
  | "xdigit" => some (.ofText "30-39 41-46 61-66")
  | _ => none

/-- A named set at the start of a text, after its bracket: whether its complement is meant, its
characters, and the rest. -/
def asciiSet? (cs : List Char) : Option (Bool × CharSet × List Char) :=
  match cs with
  | ':' :: rest =>
    let (negated, rest) := match rest with
      | '^' :: rest => (true, rest)
      | _ => (false, rest)
    match rest.dropWhile (· != ':') with
    | ':' :: ']' :: after =>
      (asciiSetChars? (String.ofList (rest.takeWhile (· != ':')))).map fun chars =>
        (negated, chars, after)
    | _ => none
  | _ => none

inductive SetOperator where
  | inter
  | diff
  | symmDiff
  deriving DecidableEq, Repr

def SetOperator.apply : SetOperator → CharSet → CharSet → CharSet
  | inter, s, t => s.inter t
  | diff, s, t => s.diff t
  | symmDiff, s, t => s.symmDiff t

/-- The operands that an operator has before it, taken together. -/
structure LeftOperand where
  chars : CharSet
  nesting : Nat
  operator : SetOperator

/-- A set that is still open: the operands before the current one, if any, and how many items this
one has, how deep they nest and what they are together. -/
structure OpenSet where
  negated : Bool
  left : Option LeftOperand
  items : Nat
  nesting : Nat
  chars : CharSet

namespace OpenSet

def start (negated : Bool) : OpenSet := ⟨negated, none, 0, 0, .empty⟩

/-- The nesting of the parts of an operand; several together count one more. -/
def operandNesting (s : OpenSet) : Nat :=
  if 1 < s.items then s.nesting + 1 else s.nesting

/-- The nesting of all operands; an operator counts one more. -/
def allNesting (s : OpenSet) : Nat :=
  match s.left with
  | some left => max left.nesting s.operandNesting + 1
  | none => s.operandNesting

def allChars (flags : Flags) (s : OpenSet) : CharSet :=
  match s.left with
  | some left => left.operator.apply (flags.fold left.chars) (flags.fold s.chars)
  | none => s.chars

def add (s : OpenSet) (nesting : Nat) (chars : CharSet) : OpenSet :=
  { s with
    items := s.items + 1
    nesting := max s.nesting nesting
    chars := s.chars.union chars }

def operator (flags : Flags) (s : OpenSet) (op : SetOperator) : OpenSet :=
  { OpenSet.start s.negated with left := some ⟨s.allChars flags, s.allNesting, op⟩ }

/-- Closes a set: its nesting and its characters. A complement goes beyond ASCII. -/
def close? (flags : Flags) (s : OpenSet) : Option (Nat × CharSet) :=
  if s.negated && !flags.unicode then none
  else some (s.allNesting + 1, flags.foldSigned s.negated (s.allChars flags))

end OpenSet

variable [Library]

def leadingDashes (flags : Flags) : Nat → OpenSet → List Char → OpenSet × List Char
  | steps + 1, s, '-' :: rest =>
    leadingDashes flags steps (s.add 0 (.singleton '-')) (flags.skip rest)
  | _, s, cs => (s, cs)

/-- Reads the start of a set after its bracket: a caret for the complement, then dashes or a
closing bracket that stand for themselves. -/
def openSet (flags : Flags) (cs : List Char) : OpenSet × List Char :=
  let cs := flags.skip cs
  let (negated, cs) := match cs with
    | '^' :: rest => (true, flags.skip rest)
    | _ => (false, cs)
  let (s, cs) := leadingDashes flags cs.length (.start negated) cs
  match cs with
  | ']' :: rest => if s.items = 0 then (s.add 0 (.singleton ']'), flags.skip rest) else (s, cs)
  | _ => (s, cs)

def member? (flags : Flags) : List Char → Option (Atom × List Char)
  | '\\' :: rest => escape? flags rest
  | c :: rest => some (.literal c, rest)
  | [] => none

def mayStand (flags : Flags) (c : Char) : Bool :=
  flags.unicode || c.toNat < 0x80

/-- The next character past blanks and number signs. It is what a dash is taken by; a comment does
not hide it. -/
def nextPastBlanks (inComment : Bool) : List Char → Option Char
  | [] => none
  | c :: rest =>
    if Text.isBlank c then nextPastBlanks inComment rest
    else if c == '#' && !inComment then nextPastBlanks true rest
    else some c

/-- Whether a dash before `cs` stands for itself and makes no range: before a closing bracket or
another dash. -/
def dashStandsAlone (flags : Flags) (cs : List Char) : Bool :=
  let next := if flags.verbose then nextPastBlanks false cs else cs.head?
  next == some ']' || next == some '-'

def range? (flags : Flags) (first last : Atom) : Option CharSet :=
  match first, last with
  | .literal a, .literal b =>
    if a ≤ b && mayStand flags a && mayStand flags b then some (.between a b) else none
  | _, _ => none

def memberOrRange? (flags : Flags) (cs : List Char) : Option (CharSet × List Char) := do
  let (first, rest) ← member? flags cs
  let rest := flags.skip rest
  let single : Option (CharSet × List Char) := match first with
    | .literal c => if mayStand flags c then some (.singleton c, rest) else none
    | .set chars => some (chars, rest)
    | .assertion _ => none
  match rest with
  | [] => none
  | '-' :: after =>
    if dashStandsAlone flags after then single
    else
      let (last, rest) ← member? flags (flags.skip after)
      let chars ← range? flags first last
      some (chars, rest)
  | _ => single

/-- Reads on in the innermost of the open sets until the outermost is closed. Every step takes a
character. -/
def setFrom (flags : Flags) (outer : List OpenSet) (s : OpenSet) :
    Nat → List Char → Option (Fragment × List Char)
  | 0, _ => none
  | steps + 1, cs =>
    match flags.skip cs with
    | [] => none
    | '[' :: rest =>
      match asciiSet? rest with
      | some (negated, chars, after) =>
        if negated && !flags.unicode then none
        else setFrom flags outer (s.add 0 (flags.foldSigned negated chars)) steps after
      | none =>
        let (inner, rest) := openSet flags rest
        setFrom flags (s :: outer) inner steps rest
    | ']' :: rest =>
      match s.close? flags with
      | none => none
      | some (nesting, chars) =>
        match outer with
        | [] => some (⟨nesting, .ofSet (!flags.unicode) chars, true⟩, rest)
        | s :: outer => setFrom flags outer (s.add nesting chars) steps rest
    | '&' :: '&' :: rest => setFrom flags outer (s.operator flags .inter) steps rest
    | '-' :: '-' :: rest => setFrom flags outer (s.operator flags .diff) steps rest
    | '~' :: '~' :: rest => setFrom flags outer (s.operator flags .symmDiff) steps rest
    | cs =>
      match memberOrRange? flags cs with
      | some (chars, rest) => setFrom flags outer (s.add 0 chars) steps rest
      | none => none

def set? (flags : Flags) (cs : List Char) : Option (Fragment × List Char) :=
  let (s, rest) := openSet flags cs
  setFrom flags [] s (rest.length + 1) rest

end NetQuery.Regex
