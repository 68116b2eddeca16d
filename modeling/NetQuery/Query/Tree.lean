import NetQuery.Query.Literal

namespace NetQuery

inductive Relation where
  | eq
  | ne
  /-- The value stands somewhere in the field's text, in any case. -/
  | approx
  deriving DecidableEq, Repr

def Relation.symbol : Relation → String
  | eq => "="
  | ne => "!="
  | approx => "~"

inductive Query where
  | field (name : String) (value : Literal) (relation : Option Relation)
  | wildcard (name : String) (pattern : String)
  | range (name : String) (min max : Option Literal) (inclusive : Bool)
  | comparison (name : String) (op : Comparison) (value : Literal)
  | group (body : Query)
  | and (left right : Query)
  | or (left right : Query)
  | not (operand : Query)
  deriving DecidableEq, Repr

namespace Query

/-- The field name that stands for every record. -/
def matchAllName : String := "*"

def matchAll : Query := field matchAllName (.text matchAllName) none

def fieldName? : Query → Option String
  | field name .. | wildcard name _ | range name .. | comparison name .. => some name
  | group _ | and .. | or .. | not _ => none

def isMatchAll : Query → Bool
  | field name .. => name == matchAllName
  | _ => false

def isLeaf (q : Query) : Bool :=
  q.fieldName?.isSome

def leaves : Query → List Query
  | group body => body.leaves
  | and left right | or left right => left.leaves ++ right.leaves
  | not operand => operand.leaves
  | leaf => [leaf]

/-- The clauses that the query demands together, through conjunctions and groups. -/
def conjuncts : Query → List Query
  | and left right => left.conjuncts ++ right.conjuncts
  | group body => body.conjuncts
  | other => [other]

def mentionsMatchAll (q : Query) : Bool :=
  q.leaves.any isMatchAll

@[simp] theorem isMatchAll_matchAll : matchAll.isMatchAll = true := by decide

end Query

end NetQuery
