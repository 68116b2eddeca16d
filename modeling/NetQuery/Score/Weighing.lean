import NetQuery.Number.Layout
import NetQuery.Score.Component

namespace NetQuery.Score

open Number

structure Weighing where
  components : List Component
  /-- Connectives after the last component. -/
  dangling : List Connective
  /-- Whether grouping parentheses were dropped. -/
  grouped : Bool
  deriving Repr

namespace Weighing

def ofText (text : String) : Weighing :=
  let r := read (splitWords text.toList)
  ⟨r.components.reverse, r.pending.reverse, r.grouped⟩

/-- The complexity in tenths. Connectives count even where no component follows. -/
def tenths (w : Weighing) : Nat :=
  (w.components.map Component.weight).sum + connectiveWeight * w.dangling.length

def ofTenths (n : Nat) : Binary64 :=
  .ofRatio false n 10

def complexity (w : Weighing) : Binary64 :=
  ofTenths w.tenths

/-- The fields of the components, each once, in the order of their first use. -/
def fields (w : Weighing) : List String :=
  (w.components.filterMap (·.field)).foldl
    (fun seen name => if seen.contains name then seen else seen ++ [name]) []

/-- The components, lightest condition first; equal ones keep their order. -/
def ordered (w : Weighing) : List Component :=
  w.components.mergeSort fun a b => a.kind.weight ≤ b.kind.weight

def optimized (w : Weighing) : String :=
  String.intercalate " " (w.ordered.map Component.toText)

def groupWarning : String :=
  "Grouping parentheses are ignored when scoring query components"

def danglingWarning (w : Connective) : String :=
  "Dangling logical operator '" ++ w.name ++ "' ignored"

def warnings (w : Weighing) : List String :=
  (if w.grouped then [groupWarning] else []) ++ w.dangling.map danglingWarning

end Weighing

def Component.toJson (c : Component) : Json :=
  .obj [("field", (c.field.map Json.str).getD .null), ("operator", .str c.kind.name),
    ("value", c.value), ("logical", .arr (c.connectives.map fun w => .str w.name)),
    ("text", .str c.text)]

def Weighing.toJson (w : Weighing) : Json :=
  .obj [("components", .arr (w.components.map Component.toJson)),
    ("filters", .arr (w.fields.map .str)), ("optimized", .str w.optimized),
    ("complexity", .float w.complexity), ("warnings", .arr (w.warnings.map .str))]

end NetQuery.Score
