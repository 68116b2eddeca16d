import NetQuery.Token.Basic

namespace NetQuery

/-- Groups and negations nest at most this deep, the query itself counted. -/
def maxDepth : Nat := 64

def maxClauses : Nat := 512

inductive Fault where
  | missingColon (field : String)
  | missingValue (field : String)
  | missingOperand (op : Operator) (field : String)
  | missingTo (field : String)
  | openRange (field : String)
  | openGroup
  | missingExpression (connective : Connective)
  | unexpected (token : Token)
  | endOfQuery
  | tooDeep
  | tooManyClauses
  | emptyQuery
  deriving DecidableEq, Repr

def Fault.message : Fault → String
  | missingColon field => "Expected ':' after field '" ++ field ++ "'"
  | missingValue field => "Expected value after field '" ++ field ++ ":'"
  | missingOperand op field =>
    "Expected value after operator '" ++ op.symbol ++ "' for field '" ++ field ++ "'"
  | missingTo field => "Expected 'TO' in range query for field '" ++ field ++ "'"
  | openRange field => "Expected ']' to close range query for field '" ++ field ++ "'"
  | openGroup => "Expected closing parenthesis"
  | missingExpression connective => "Expected expression after " ++ connective.name ++ " operator"
  | unexpected token =>
    "Unexpected token '" ++ token.symbol.text ++ "' at position " ++
      Number.natText token.span.start
  | endOfQuery => "Unexpected end of query"
  | tooDeep => "Query nesting exceeds maximum depth of " ++ Number.natText maxDepth
  | tooManyClauses => "Query exceeds maximum of " ++ Number.natText maxClauses ++ " clauses"
  | emptyQuery => "Empty query"

structure Diagnostic where
  fault : Fault
  span : Option Span
  deriving DecidableEq, Repr

def Diagnostic.message (d : Diagnostic) : String :=
  d.fault.message

end NetQuery
