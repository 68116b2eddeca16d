import NetQuery.Query.Tree

namespace NetQuery.Query

def boundText (bound : Option Literal) : String :=
  (bound.map Literal.toText).getD matchAllName

/-- The query in the query language. Groups print their own parentheses and nothing else does. -/
def toText : Query → String
  | field name value relation =>
    if name == matchAllName then matchAllName
    else match relation with
      | none | some .eq => name ++ ":" ++ value.toText
      | some r => name ++ ":" ++ r.symbol ++ value.toText
  | wildcard name pattern => name ++ ":" ++ pattern
  | range name min max _ => name ++ ":[" ++ boundText min ++ " TO " ++ boundText max ++ "]"
  | comparison name op value => name ++ ":" ++ op.symbol ++ value.toText
  | group body => "(" ++ body.toText ++ ")"
  | and left right => left.toText ++ " AND " ++ right.toText
  | or left right => left.toText ++ " OR " ++ right.toText
  | not operand => "NOT " ++ operand.toText

def optional (value : Option Json) : Json :=
  value.getD .null

def toJson : Query → Json
  | field name value relation =>
    .obj [("type", .str "field"), ("field", .str name), ("value", value.toJson),
      ("operator", optional (relation.map (.str ·.symbol)))]
  | wildcard name pattern =>
    .obj [("type", .str "wildcard"), ("field", .str name), ("pattern", .str pattern)]
  | range name min max inclusive =>
    .obj [("type", .str "range"), ("field", .str name), ("min", optional (min.map Literal.toJson)),
      ("max", optional (max.map Literal.toJson)), ("inclusive", .bool inclusive)]
  | comparison name op value =>
    .obj [("type", .str "comparison"), ("field", .str name), ("operator", .str op.symbol),
      ("value", value.toJson)]
  | group body => .obj [("type", .str "group"), ("query", body.toJson)]
  | and left right => logical "AND" [("left", left.toJson), ("right", right.toJson)]
  | or left right => logical "OR" [("left", left.toJson), ("right", right.toJson)]
  | not operand => logical "NOT" [("operand", operand.toJson)]
where
  logical (operator : String) (operands : List (String × Json)) : Json :=
    .obj ([("type", .str "logical"), ("operator", .str operator)] ++ operands)

example : toText (.and matchAll (.range "a" none (some (.int 3)) true)) = "* AND a:[* TO 3]" := by
  decide

end NetQuery.Query
