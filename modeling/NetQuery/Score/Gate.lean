import NetQuery.Regex.Checker
import NetQuery.Score.Weighing

namespace NetQuery.Score

open Number

variable [Regex.Library]

inductive Rejection where
  | tooComplex (complexity limit : Binary64)
  | badPattern (pattern : String)
  deriving DecidableEq, Repr

/-- The message to a rejection. What the library of patterns says of a bad pattern stands behind the
colon in print; it is left out here, so the message is its beginning. -/
def Rejection.message : Rejection → String
  | tooComplex complexity limit =>
    "Query complexity " ++ plainText complexity ++ " exceeds maximum allowed " ++ plainText limit
  | badPattern pattern => "Invalid regex pattern '" ++ pattern ++ "':"

def Component.pattern? (c : Component) : Option String :=
  match c.kind, c.value with
  | .regex, .str pattern => some pattern
  | _, _ => none

/-- Why the gate refuses; a limit that is not a number refuses nothing for its complexity. -/
def rejections (w : Weighing) (limit : Binary64) : List Rejection :=
  (if limit.lt w.complexity then [.tooComplex w.complexity limit] else []) ++
    ((w.components.filterMap Component.pattern?).filter (!Regex.isPattern ·)).map .badPattern

structure Admission where
  errors : List String
  weighing : Weighing

def admission (text : String) (limit : Binary64) : Admission :=
  let w := Weighing.ofText text
  ⟨(rejections w limit).map Rejection.message, w⟩

def Admission.isValid (a : Admission) : Bool :=
  a.errors.isEmpty

def Admission.toJson (a : Admission) : Json :=
  .obj [("is_valid", .bool a.isValid), ("errors", .arr (a.errors.map .str)),
    ("parsed", a.weighing.toJson)]

end NetQuery.Score
