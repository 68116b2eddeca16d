import NetQuery.Regex.Set
import NetQuery.Text.Alphabetic

namespace NetQuery.Regex

/-- A group that waits for its closing parenthesis: its index if its match is noted, what came
before it, in reverse, and the flags to return to. -/
structure OpenGroup where
  index : Option Nat
  flags : Flags
  parts : List Fragment
  branches : List Fragment

/-- How far a pattern is read. Parts and alternatives are of the innermost group, in reverse. -/
structure State where
  flags : Flags
  parts : List Fragment
  branches : List Fragment
  outer : List OpenGroup
  /-- How many groups have had an index. -/
  indices : Nat
  names : List (List Char)

namespace State

def start : State := ⟨.usual, [], [], [], 0, []⟩

def add (s : State) (part : Fragment) : State :=
  { s with parts := part :: s.parts }

def addAtom (s : State) (atom : Atom) : State :=
  s.add (.ofExpr (atom.expr s.flags))

def body (s : State) : Fragment :=
  Fragment.choice ((Fragment.sequence s.parts.reverse :: s.branches).reverse)

def branch (s : State) : State :=
  { s with parts := [], branches := Fragment.sequence s.parts.reverse :: s.branches }

def openGroup (s : State) (index : Option Nat) (flags : Flags) : State :=
  { s with flags, parts := [], branches := [],
           outer := ⟨index, s.flags, s.parts, s.branches⟩ :: s.outer }

def openCapture (s : State) : State :=
  { s.openGroup (some (s.indices + 1)) s.flags with indices := s.indices + 1 }

def closeGroup? (s : State) : Option State :=
  match s.outer with
  | [] => none
  | g :: outer =>
    some { s with flags := g.flags, parts := s.body.group g.index :: g.parts,
                  branches := g.branches, outer }

def repeatLast? (s : State) (least : Nat) (most : Option Nat) (greedy : Bool) : Option State :=
  match s.parts with
  | part :: parts =>
    if part.repeatable then some { s with parts := part.repeated least most greedy :: parts }
    else none
  | [] => none

end State

variable [Library]

def inGroupName (first : Bool) (c : Char) : Bool :=
  c == '_' || Text.isAlphabetic c ||
    (!first && (c == '.' || c == '[' || c == ']' || Text.isNumeric c))

def isGroupName : List Char → Bool
  | [] => false
  | c :: rest => inGroupName true c && rest.all (inGroupName false)

/-- Reads the start of a group after its parenthesis: its name or flags. Flags without a group
change those of the group around them. -/
def openGroup? (s : State) (cs : List Char) : Option (State × List Char) :=
  let named (rest : List Char) : Option (State × List Char) :=
    let name := rest.takeWhile (· != '>')
    match rest.dropWhile (· != '>') with
    | '>' :: after =>
      if isGroupName name && !s.names.contains name then
        some ({ s with names := name :: s.names }.openCapture, after)
      else none
    | _ => none
  match s.flags.skip cs with
  | '?' :: '=' :: _ | '?' :: '!' :: _ | '?' :: '<' :: '=' :: _ | '?' :: '<' :: '!' :: _ => none
  | '?' :: 'P' :: '<' :: rest => named rest
  | '?' :: '<' :: rest => named rest
  | '?' :: rest =>
    let ends (c : Char) : Bool := c == ':' || c == ')'
    let letters := rest.takeWhile (!ends ·)
    if Flags.isList letters then
      let flags := s.flags.apply letters
      match rest.dropWhile (!ends ·) with
      | ':' :: after => some (s.openGroup none flags, after)
      | ')' :: after => if letters.isEmpty then none else some ({ s with flags }.add .flags, after)
      | _ => none
    else none
  | cs => some (s.openCapture, cs)

/-- Whether a repetition takes as much as it can, and the rest after its mark. -/
def greed (flags : Flags) : List Char → Bool × List Char
  | '?' :: rest => (flags.lazy, rest)
  | cs => (!flags.lazy, cs)

def greatestCount : Nat := 4294967295

def countDigits (flags : Flags) : Nat → List Char → List Char × List Char
  | steps + 1, c :: rest =>
    if c.isDigit then
      let (digits, rest) := countDigits flags steps (flags.skip rest)
      (c :: digits, rest)
    else ([], c :: rest)
  | _, cs => ([], cs)

/-- Reads a count, between blanks. It may be missing; `none` is a count that is too great. -/
def count? (flags : Flags) (cs : List Char) : Option (Option Nat × List Char) :=
  let (digits, rest) := countDigits flags cs.length (Text.dropBlanks cs)
  let rest := flags.skip (Text.dropBlanks rest)
  if digits.isEmpty then some (none, rest)
  else
    let n := Number.digitsFrom 0 digits
    if n ≤ greatestCount then some (some n, rest) else none

def counts? (flags : Flags) (cs : List Char) : Option (Nat × Option Nat × List Char) := do
  let (least, rest) ← count? flags (flags.skip cs)
  let least ← least
  match rest with
  | '\x7d' :: rest => some (least, some least, rest)
  | ',' :: rest =>
    match flags.skip rest with
    | '\x7d' :: rest => some (least, none, rest)
    | rest =>
      let (most, rest) ← count? flags rest
      let most ← most
      match rest with
      | '\x7d' :: rest => if least ≤ most then some (least, some most, rest) else none
      | _ => none
  | _ => none

def pointChars (flags : Flags) : CharSet :=
  if flags.pointEndsLine then anyChar
  else if flags.crlf then (CharSet.ofText "a d").complement
  else (CharSet.ofText "a").complement

def caretAssertion (flags : Flags) : Assertion :=
  if flags.lines then .lineStart flags.crlf else .textStart

def dollarAssertion (flags : Flags) : Assertion :=
  if flags.lines then .lineEnd flags.crlf else .textEnd

def step? (s : State) (c : Char) (rest : List Char) : Option (State × List Char) :=
  let times (least : Nat) (most : Option Nat) (rest : List Char) : Option (State × List Char) :=
    let (greedy, rest) := greed s.flags rest
    (s.repeatLast? least most greedy).map fun s => (s, rest)
  match c with
  | '(' => openGroup? s rest
  | ')' => s.closeGroup?.map fun s => (s, rest)
  | '|' => some (s.branch, rest)
  | '[' => (set? s.flags rest).map fun (part, rest) => (s.add part, rest)
  | '?' => times 0 (some 1) rest
  | '*' => times 0 none rest
  | '+' => times 1 none rest
  | '\x7b' => do
    let (least, most, rest) ← counts? s.flags rest
    times least most (s.flags.skip rest)
  | '\\' => (escape? s.flags rest).map fun (atom, rest) => (s.addAtom atom, rest)
  | '.' =>
    if s.flags.unicode then some (s.addAtom (.set (pointChars s.flags)), rest) else none
  | '^' => some (s.addAtom (.assertion (caretAssertion s.flags)), rest)
  | '$' => some (s.addAtom (.assertion (dollarAssertion s.flags)), rest)
  | _ => some (s.addAtom (.literal c), rest)

/-- Reads a pattern to its end, where no group is open. Every step takes a character. -/
def readFrom (s : State) : Nat → List Char → Option Fragment
  | 0, _ => none
  | steps + 1, cs =>
    match s.flags.skip cs with
    | [] => if s.outer.isEmpty then some s.body else none
    | c :: rest =>
      match step? s c rest with
      | some (s, rest) => readFrom s steps rest
      | none => none

def read? (cs : List Char) : Option Fragment :=
  readFrom .start (cs.length + 1) cs

/-- Whether the text is an accepted pattern. -/
def isPattern (s : String) : Bool :=
  (read? s.toList).any Fragment.fits

end NetQuery.Regex
