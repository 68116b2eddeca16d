import NetQuery.Character.Folding
import NetQuery.Glob
import NetQuery.Regex.Library

namespace NetQuery.Glob

open Regex

/-- What a sign stands for, given what a wildcard stands for and whether letters stand for
themselves in any case. -/
def signExpr (wild : CharSet) (anyCase : Bool) : GlobSign → Expr
  | .run => .repeated 0 none true (.ofSet false wild)
  | .one => .ofSet false wild
  | .char c => .ofSet false (if anyCase then (CharSet.singleton c).foldedCase else .singleton c)

def wholeText (parts : List Expr) : Expr :=
  .inTurn (.assertion .textStart :: parts ++ [.assertion .textEnd])

def lineChars : CharSet := (CharSet.singleton '\n').complement

def textExpr (pattern : String) : Expr :=
  wholeText ((ofText pattern.toList).map (signExpr lineChars true))

/-- Whether a pattern with wildcards builds. -/
def isPattern [Library] (pattern : String) : Bool :=
  Library.builds (textExpr pattern)

end NetQuery.Glob
