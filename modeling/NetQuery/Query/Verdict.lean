import NetQuery.Query.Hint
import NetQuery.Query.Parser
import NetQuery.Query.Printer
import NetQuery.Token.Lexer

namespace NetQuery

structure Verdict where
  isValid : Bool
  errors : List String
  warnings : List String
  hints : List String
  query : Option Query
  deriving DecidableEq, Repr

namespace Verdict

def invalid (errors : List String) : Verdict :=
  ⟨false, errors, [], [], none⟩

def matchAllWarning : String := "'*' combined with other clauses matches every record"

def onBlank : Verdict :=
  { invalid [Fault.emptyQuery.message] with hints := [Hint.useMatchAll.message] }

def refused (text : String) (entity : Option Entity) (errors names : List String) : Verdict :=
  { invalid errors with hints := (Hint.all text errors names entity).map Hint.message }

def onQuery (text : String) (entity : Option Entity) (q : Query) : Verdict :=
  let undeclared := match entity with
    | some entity => q.undeclaredFields entity
    | none => []
  let errors := undeclared.map (·.message)
  { isValid := errors.isEmpty
    errors
    warnings := if !q.isMatchAll && q.mentionsMatchAll then [matchAllWarning] else []
    hints := (Hint.all text errors (undeclared.map (·.name)) entity).map Hint.message
    query := if errors.isEmpty then some q else none }

/-- Reads a query text; with an entity, also checks its fields. -/
def ofText (text : String) (entity : Option Entity) : Verdict :=
  if Text.isAllBlank text then onBlank
  else
    match tokenize text with
    | .error e => refused text entity [e.message] []
    | .ok tokens =>
      match Query.ofTokens tokens with
      | .error diagnostics => refused text entity (diagnostics.map Diagnostic.message) []
      | .ok q => onQuery text entity q

def toJson (v : Verdict) : Json :=
  .obj ([("is_valid", .bool v.isValid), ("errors", .arr (v.errors.map .str)),
    ("warnings", .arr (v.warnings.map .str)), ("suggestions", .arr (v.hints.map .str))] ++
    match v.query with
    | some q => [("ast", q.toJson)]
    | none => [])

end Verdict

end NetQuery
