import NetQuery.Query.FieldCheck
import NetQuery.Text.EditDistance
import NetQuery.Text.Quotes

namespace NetQuery

inductive Hint where
  | didYouMean (close field : String)
  | declaredFields (entity : Entity)
  | parentheses
  | brackets
  | emptyField
  | useMatchAll
  deriving DecidableEq, Repr

namespace Hint

def message : Hint → String
  | didYouMean close field => "Did you mean '" ++ close ++ "' instead of '" ++ field ++ "'?"
  | declaredFields entity => "Valid fields for " ++ entity.name ++ ": " ++ entity.fieldList
  | parentheses => "Check that all parentheses are balanced"
  | brackets => "Check that range brackets are balanced, e.g. field:[min TO max]"
  | emptyField => "Every field needs a value, e.g. severity:high"
  | useMatchAll => "Use '*' to match every record"

def closeDistance : Nat := 2

/-- The nearer of two fields with their distances, the first of two equally near. -/
def nearer (best : Option (String × Nat)) (candidate : String × Nat) : Option (String × Nat) :=
  match best with
  | some (_, distance) => if candidate.2 < distance then some candidate else best
  | none => some candidate

/-- The first field of least distance among those close to the name or containing it. -/
def closestField? (entity : Entity) (name : String) : Option String :=
  let name := Text.lowerAscii name
  let measured := entity.fieldNames.map fun field => (field, Text.editDistance name field)
  let close := measured.filter fun (field, distance) =>
    distance ≤ closeDistance || Text.contains field name
  (close.foldl nearer none).map (·.1)

def balance (opening closing : Char) (cs : List Char) : Int :=
  (cs.count opening : Int) - cs.count closing

/-- Whether nothing, a blank or a closing parenthesis follows a colon. -/
def hasBareColon : List Char → Bool
  | [] => false
  | ':' :: rest =>
    (match rest with | [] => true | c :: _ => Text.isBlank c || c == ')') || hasBareColon rest
  | _ :: rest => hasBareColon rest

def hasEmptyField (cs : List Char) : Bool :=
  (Text.dropBlanks cs).head? == some ':' || hasBareColon cs

def onFields (entity : Entity) (names : List String) : List Hint :=
  names.filterMap (fun name =>
      (closestField? entity name).map fun close => didYouMean close name) ++
    [declaredFields entity]

def onText (query : String) : List Hint :=
  let cs := Text.maskQuoted query.toList
  (if balance '(' ')' cs ≠ 0 then [parentheses] else []) ++
    (if balance '[' ']' cs ≠ 0 then [brackets] else []) ++
    (if hasEmptyField cs then [emptyField] else [])

def undeclaredPhrase : String := "is not valid for"

def all (query : String) (errors names : List String) (entity : Option Entity) : List Hint :=
  (match entity with
    | some entity =>
      if errors.any (Text.contains · undeclaredPhrase) then onFields entity names else []
    | none => []) ++ onText query

end Hint

end NetQuery
