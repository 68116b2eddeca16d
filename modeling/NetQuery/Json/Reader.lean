import NetQuery.Json.Token

namespace NetQuery.Json

/-- An array or object that is still open, its parts in reverse. In an object a key may wait for
its value. -/
inductive Frame where
  | array (items : List Json)
  | object (members : List (String × Json)) (key : Option String)

inductive Expect where
  /-- A value, or the end of the array that was just opened. -/
  | firstItem
  /-- A key, or the end of the object that was just opened. -/
  | firstKey
  | value
  | key
  | colon
  /-- A comma or a closing bracket; outside all brackets nothing. -/
  | separator

structure ReadState where
  stack : List Frame
  expect : Expect
  result : Option Json

/-- Hands a finished value to the innermost open bracket. -/
def ReadState.push? (value : Json) : List Frame → Option ReadState
  | [] => some ⟨[], .separator, some value⟩
  | .array items :: rest => some ⟨.array (value :: items) :: rest, .separator, none⟩
  | .object members (some key) :: rest =>
    some ⟨.object ((key, value) :: members) none :: rest, .separator, none⟩
  | .object _ none :: _ => none

/-- Takes one token; brackets nest less than `depth` deep. -/
def ReadState.step? (depth : Nat) (s : ReadState) (token : Token) : Option ReadState :=
  match s.expect, token, s.stack with
  | .value, .scalar v, stack => push? v stack
  | .firstItem, .scalar v, stack => push? v stack
  | .value, .openArray, stack | .firstItem, .openArray, stack =>
    if stack.length + 1 < depth then some ⟨.array [] :: stack, .firstItem, none⟩ else none
  | .value, .openObject, stack | .firstItem, .openObject, stack =>
    if stack.length + 1 < depth then some ⟨.object [] none :: stack, .firstKey, none⟩ else none
  | .firstItem, .closeArray, .array items :: rest => push? (.arr items.reverse) rest
  | .separator, .closeArray, .array items :: rest => push? (.arr items.reverse) rest
  | .firstKey, .closeObject, .object members none :: rest => push? (.obj members.reverse) rest
  | .separator, .closeObject, .object members none :: rest => push? (.obj members.reverse) rest
  | .separator, .comma, .array items :: rest => some ⟨.array items :: rest, .value, none⟩
  | .separator, .comma, .object members none :: rest =>
    some ⟨.object members none :: rest, .key, none⟩
  | .firstKey, .scalar (.str k), .object members none :: rest =>
    some ⟨.object members (some k) :: rest, .colon, none⟩
  | .key, .scalar (.str k), .object members none :: rest =>
    some ⟨.object members (some k) :: rest, .colon, none⟩
  | .colon, .colon, stack => some ⟨stack, .value, none⟩
  | _, _, _ => none

/-- The value of a text, with its objects as written. Brackets nest less than `depth` deep. -/
def readRaw? (depth : Nat) (text : String) : Option Json := do
  let tokens ← tokens? text
  let final ← tokens.foldlM (ReadState.step? depth) ⟨[], .value, none⟩
  final.result

def nestingLimit : Nat := 128

/-- The value of a text from outside, with its objects sorted. -/
def read? (text : String) : Option Json :=
  (readRaw? nestingLimit text).map sorted

end NetQuery.Json
