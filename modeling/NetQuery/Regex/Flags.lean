import NetQuery.Text.Blank

namespace NetQuery.Regex

structure Flags where
  /-- Letters stand for themselves in any case. -/
  anyCase : Bool
  /-- Lines have a start and an end of their own. -/
  lines : Bool
  /-- A point stands for the end of a line too. -/
  pointEndsLine : Bool
  /-- Repetitions take as little as they can, and as much with a question mark. -/
  lazy : Bool
  /-- Sets of characters may go beyond ASCII. -/
  unicode : Bool
  /-- A line may end with a carriage return before its line feed. -/
  crlf : Bool
  /-- Blanks and comments between the signs are passed over. -/
  verbose : Bool
  deriving DecidableEq, Repr

namespace Flags

def usual : Flags := ⟨false, false, false, false, true, false, false⟩

def letters : List Char := ['i', 'm', 's', 'U', 'u', 'R', 'x']

/-- Flags as written: each letter once, at most one minus sign and something after it. -/
def isList (cs : List Char) : Bool :=
  let found := cs.filter (· != '-')
  found.all letters.contains && found.eraseDups.length == found.length && cs.count '-' ≤ 1 &&
    cs.getLast? != some '-'

/-- A letter before the minus sign sets its flag and one after it clears it. -/
def after (letter : Char) (cs : List Char) (current : Bool) : Bool :=
  if (cs.takeWhile (· != '-')).contains letter then true
  else if cs.contains letter then false
  else current

def apply (flags : Flags) (cs : List Char) : Flags :=
  { anyCase := after 'i' cs flags.anyCase
    lines := after 'm' cs flags.lines
    pointEndsLine := after 's' cs flags.pointEndsLine
    lazy := after 'U' cs flags.lazy
    unicode := after 'u' cs flags.unicode
    crlf := after 'R' cs flags.crlf
    verbose := after 'x' cs flags.verbose }

/-- Drops blanks and comments; a comment runs from a number sign to the end of its line. -/
def dropComments (inComment : Bool) : List Char → List Char
  | [] => []
  | c :: rest =>
    if inComment then dropComments (c != '\n') rest
    else if c == '#' then dropComments true rest
    else if Text.isBlank c then dropComments false rest
    else c :: rest

/-- What comes next, where blanks may be passed over. -/
def skip (flags : Flags) (cs : List Char) : List Char :=
  if flags.verbose then dropComments false cs else cs

example : (usual.apply "i-u".toList).anyCase ∧ ¬ (usual.apply "i-u".toList).unicode := by
  decide

end Flags

end NetQuery.Regex
