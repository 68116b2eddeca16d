import NetQuery.Json.Token
import NetQuery.Number.Integer
import NetQuery.Character.Folding
import NetQuery.Regex.Flags
import NetQuery.Regex.Library
import NetQuery.Text.DecimalDigit
import NetQuery.Text.WordChar

namespace NetQuery.Regex

variable [Library]

/-- The set up to case, where letters stand for themselves in any case. -/
def Flags.fold (flags : Flags) (s : CharSet) : CharSet :=
  if !flags.anyCase then s else if flags.unicode then s.foldedCase else s.foldedAsciiCase

def Flags.foldSigned (flags : Flags) (negated : Bool) (s : CharSet) : CharSet :=
  if negated then (flags.fold s).complement else flags.fold s

/-- What an escape, or a character of its own, stands for. -/
inductive Atom where
  | literal (c : Char)
  | set (chars : CharSet)
  | assertion (a : Assertion)

def Atom.expr (flags : Flags) : Atom → Expr
  | literal c => .ofSet (!flags.unicode) (flags.fold (.singleton c))
  | set chars => .ofSet (!flags.unicode) chars
  | assertion a => .assertion a

def isSign (c : Char) : Bool :=
  ['\\', '.', '+', '*', '?', '(', ')', '|', '[', ']', '\x7b', '\x7d', '^', '$', '#', '&', '-',
    '~'].contains c

/-- Characters that a backslash may take the meaning from; letters and digits have other uses. -/
def isEscapable (c : Char) : Bool :=
  isSign c || (c.toNat < 0x80 && !c.isAlphanum && c != '<' && c != '>')

def hexValue? (digits : List Char) : Option Nat :=
  digits.foldlM (fun n c => (Json.hexDigit? c).map (16 * n + ·)) 0

def character? (n : Nat) : Option Char :=
  if h : n.isValidChar then some (Char.ofNatAux n h) else none

def hexDigits? (flags : Flags) : Nat → List Char → Option (List Char × List Char)
  | 0, cs => some ([], cs)
  | count + 1, cs =>
    match cs with
    | c :: rest =>
      if (Json.hexDigit? c).isSome then
        (hexDigits? flags count (flags.skip rest)).map fun (ds, r) => (c :: ds, r)
      else none
    | [] => none

def untilBrace? (flags : Flags) : Nat → List Char → Option (List Char × List Char)
  | 0, _ => none
  | steps + 1, cs =>
    match flags.skip cs with
    | [] => none
    | c :: rest =>
      if c == '\x7d' then some ([], rest)
      else (untilBrace? flags steps rest).map fun (ds, r) => (c :: ds, r)

/-- A character by its code point, after the letter that says so. Two digits alone mean a byte,
which is a character only in ASCII where sets end there. -/
def hexEscape? (flags : Flags) (count : Nat) (cs : List Char) : Option (Atom × List Char) :=
  match flags.skip cs with
  | '\x7b' :: rest => do
    let (digits, rest) ← untilBrace? flags (rest.length + 1) rest
    let c ← if digits.isEmpty then none else (hexValue? digits).bind character?
    some (.literal c, flags.skip rest)
  | cs => do
    let (digits, rest) ← hexDigits? flags count cs
    let c ← (hexValue? digits).bind character?
    if count = 2 && !flags.unicode && c.toNat > 0x7F then none else some (.literal c, rest)

/-- A named set of characters, or its complement, after the letter that says so. -/
def propertyEscape? (flags : Flags) (negated : Bool) (cs : List Char) :
    Option (Atom × List Char) := do
  if !flags.unicode then none
  else
    match flags.skip cs with
    | '\x7b' :: rest =>
      let (name, rest) ← untilBrace? flags (rest.length + 1) rest
      let chars ← Library.property? name
      some (.set (flags.foldSigned negated chars), rest)
    | c :: rest =>
      let chars ← if c == '\\' then none else Library.property? [c]
      some (.set (flags.foldSigned negated chars), flags.skip rest)
    | [] => none

def anyChar : CharSet := CharSet.empty.complement

def digitChars : CharSet :=
  .ofRanges (Text.decimalZeros.map fun z => (z, z + 9))

def blankChars : CharSet := .ofRanges Text.blankRanges

def wordChars : CharSet := .ofRanges Text.wordRanges

/-- The digits, blanks or word characters of all scripts, by the letter of their escape. -/
def classChars (letter : Char) : CharSet :=
  if letter == 'd' then digitChars else if letter == 's' then blankChars else wordChars

def asciiClassChars (letter : Char) : CharSet :=
  if letter == 'd' then .ofText "30-39"
  else if letter == 's' then .ofText "9-d 20"
  else .ofText "30-39 41-5a 5f 61-7a"

/-- A set of digits, blanks or word characters. A capital means the complement, which goes beyond
ASCII. -/
def classEscape? (flags : Flags) (c : Char) (rest : List Char) : Option (Atom × List Char) :=
  if flags.unicode then
    let chars := classChars c.toLower
    some (.set (if c.isUpper then chars.complement else chars), rest)
  else if c.isUpper then none
  else some (.set (asciiClassChars c), rest)

def boundaryOfName? (unicode : Bool) (name : String) : Option Assertion :=
  match name with
  | "start" => some (.wordStart unicode)
  | "end" => some (.wordEnd unicode)
  | "start-half" => some (.wordStartHalf unicode)
  | "end-half" => some (.wordEndHalf unicode)
  | _ => none

def inBoundaryName (c : Char) : Bool :=
  c.isAlpha || c == '-'

def boundaryName? (flags : Flags) : Nat → List Char → Option (List Char × List Char)
  | 0, _ => none
  | steps + 1, cs =>
    match cs with
    | c :: rest =>
      if inBoundaryName c then
        (boundaryName? flags steps (flags.skip rest)).map fun (ds, r) => (c :: ds, r)
      else if c == '\x7d' then some ([], rest)
      else none
    | [] => none

/-- A word boundary, with the name of one of its kinds in braces or without. Other braces are a
count of repetitions. -/
def boundaryEscape? (flags : Flags) (cs : List Char) : Option (Atom × List Char) :=
  match cs with
  | '\x7b' :: rest =>
    match flags.skip rest with
    | [] => none
    | c :: more =>
      if inBoundaryName c then do
        let (name, rest) ← boundaryName? flags (more.length + 2) (c :: more)
        let a ← boundaryOfName? flags.unicode (String.ofList name)
        some (.assertion a, rest)
      else some (.assertion (.boundary flags.unicode), cs)
  | _ => some (.assertion (.boundary flags.unicode), cs)

def escape? (flags : Flags) : List Char → Option (Atom × List Char)
  | [] => none
  | c :: rest =>
    match c with
    | 'x' => hexEscape? flags 2 rest
    | 'u' => hexEscape? flags 4 rest
    | 'U' => hexEscape? flags 8 rest
    | 'p' => propertyEscape? flags false rest
    | 'P' => propertyEscape? flags true rest
    | 'd' | 's' | 'w' | 'D' | 'S' | 'W' => classEscape? flags c rest
    | 'a' => some (.literal '\x07', rest)
    | 'f' => some (.literal '\x0c', rest)
    | 't' => some (.literal '\t', rest)
    | 'n' => some (.literal '\n', rest)
    | 'r' => some (.literal '\r', rest)
    | 'v' => some (.literal '\x0b', rest)
    | 'A' => some (.assertion .textStart, rest)
    | 'z' => some (.assertion .textEnd, rest)
    | 'b' => boundaryEscape? flags rest
    | 'B' => some (.assertion (.noBoundary flags.unicode), rest)
    | '<' => some (.assertion (.wordStart flags.unicode), rest)
    | '>' => some (.assertion (.wordEnd flags.unicode), rest)
    | _ => if isEscapable c then some (.literal c, rest) else none

end NetQuery.Regex
