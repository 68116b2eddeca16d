import NetQuery.Entity
import NetQuery.Json.Basic
import NetQuery.Number.Decimal
import NetQuery.Number.Layout

namespace NetQuery

open Number

/-- The text of a value: texts, numbers and booleans have one. -/
def Json.plainText? : Json → Option String
  | str s => some s
  | int n => some (intText n)
  | float x => some (recordText x)
  | bool b => some (if b then "true" else "false")
  | _ => none

/-- The number of a value: numbers, texts that spell one between blanks, and booleans as one and
zero. -/
def Json.number? : Json → Option Binary64
  | int n => some (.ofInt n)
  | float x => some x
  | str s => readBinary64? (Text.trim s)
  | bool b => some (if b then .one else .zero)
  | _ => none

structure Record where
  entity : Entity
  data : Json
  deriving Repr

namespace Record

/-- The value of a declared field; absent paths and null are none. -/
def get? (r : Record) (field : String) : Option Json := do
  let spec ← r.entity.field? field
  (r.data.at? spec.path).filter fun v => !v.isNull

def text? (r : Record) (field : String) : Option String :=
  (r.get? field).bind Json.plainText?

def number? (r : Record) (field : String) : Option Binary64 :=
  (r.get? field).bind Json.number?

end Record

end NetQuery
