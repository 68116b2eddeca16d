import NetQuery.Number.Binary64

namespace NetQuery

inductive Comparison where
  | gt
  | ge
  | lt
  | le
  deriving DecidableEq, Repr

namespace Comparison

def symbol : Comparison → String
  | gt => ">"
  | ge => ">="
  | lt => "<"
  | le => "<="

def ofSymbol? (s : String) : Option Comparison :=
  [gt, ge, lt, le].find? (·.symbol == s)

/-- Numbers compare by value; nothing holds of what is not a number. -/
def numbers (c : Comparison) (a b : Binary64) : Bool :=
  match c with
  | gt => b.lt a
  | ge => b.le a
  | lt => a.lt b
  | le => a.le b

/-- Texts compare by their code points, from the left. -/
def texts (c : Comparison) (a b : String) : Bool :=
  match c with
  | gt => b < a
  | ge => !(a < b)
  | lt => a < b
  | le => !(b < a)

def ints (c : Comparison) (a b : Int) : Bool :=
  match c with
  | gt => b < a
  | ge => b ≤ a
  | lt => a < b
  | le => a ≤ b

@[simp] theorem ofSymbol?_symbol (c : Comparison) : ofSymbol? c.symbol = some c := by
  cases c <;> decide

end Comparison

end NetQuery
