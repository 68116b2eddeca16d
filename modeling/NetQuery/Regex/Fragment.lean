import NetQuery.Regex.Library

namespace NetQuery.Regex

/-- A part of a pattern. Only what can match a text can be repeated. -/
structure Fragment where
  nesting : Nat
  expr : Expr
  repeatable : Bool

namespace Fragment

def ofExpr (e : Expr) : Fragment := ⟨0, e, true⟩

def empty : Fragment := ⟨0, .empty, false⟩

def flags : Fragment := empty

def deepest (parts : List Fragment) : Nat :=
  (parts.map (·.nesting)).foldl max 0

/-- Parts one after the other. A single part stands for itself. -/
def sequence : List Fragment → Fragment
  | [] => empty
  | [part] => part
  | parts => ⟨deepest parts + 1, .inTurn (parts.map (·.expr)), true⟩

/-- Alternatives. A single one stands for itself. -/
def choice : List Fragment → Fragment
  | [] => empty
  | [part] => part
  | parts => ⟨deepest parts + 1, .alternatives (parts.map (·.expr)), true⟩

def group (index : Option Nat) (body : Fragment) : Fragment :=
  let e := match index with
    | some index => .capture index body.expr
    | none => body.expr
  ⟨body.nesting + 1, e, true⟩

def repeated (least : Nat) (most : Option Nat) (greedy : Bool) (part : Fragment) : Fragment :=
  ⟨part.nesting + 1, .repeated least most greedy part.expr, true⟩

def maxNesting : Nat := 250

def fits [Library] (f : Fragment) : Bool :=
  f.nesting ≤ maxNesting && Library.builds f.expr

end Fragment

end NetQuery.Regex
