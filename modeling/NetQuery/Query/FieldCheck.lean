import NetQuery.Entity
import NetQuery.Query.Tree

namespace NetQuery

structure UndeclaredField where
  name : String
  entity : Entity
  deriving DecidableEq, Repr

def Entity.fieldList (entity : Entity) : String :=
  String.intercalate ", " entity.fieldNames

def UndeclaredField.message (e : UndeclaredField) : String :=
  "Field '" ++ e.name ++ "' is not valid for " ++ e.entity.name ++ ". Valid fields: " ++
    e.entity.fieldList

/-- The field of a clause that the entity does not declare; the match-all clause has no field. -/
def Query.undeclaredName? (entity : Entity) (leaf : Query) : Option String :=
  if leaf.isMatchAll then none else leaf.fieldName?.filter fun name => !entity.hasField name

/-- Walks the query and gives every undeclared field that a clause is on. -/
def Query.undeclaredFields (entity : Entity) : Query → List UndeclaredField
  | group body => body.undeclaredFields entity
  | and left right | or left right => left.undeclaredFields entity ++ right.undeclaredFields entity
  | not operand => operand.undeclaredFields entity
  | leaf => (undeclaredName? entity leaf).toList.map fun name => ⟨name, entity⟩

theorem Query.undeclaredFields_eq (entity : Entity) (q : Query) : q.undeclaredFields entity =
    (q.leaves.filterMap (undeclaredName? entity)).map fun name => ⟨name, entity⟩ := by
  have hleaf (leaf : Query) :
      (undeclaredName? entity leaf).toList = [leaf].filterMap (undeclaredName? entity) := by
    rw [List.filterMap_cons]
    cases undeclaredName? entity leaf <;> rfl
  induction q with
  | group _ ih | not _ ih => exact ih
  | and _ _ ihleft ihright | or _ _ ihleft ihright =>
    rw [undeclaredFields, ihleft, ihright, leaves, List.filterMap_append, List.map_append]
  | field | wildcard | range | comparison =>
    simp only [undeclaredFields, leaves, hleaf]

end NetQuery
