import NetQuery.Plan.Params
import NetQuery.Plan.Predicate

namespace NetQuery

structure Stage where
  name : String
  accepts : Predicate

/-- How many records a stage was given and how many it kept. -/
structure StageTrace where
  stage : String
  input : Nat
  output : Nat
  deriving DecidableEq, Repr

/-- What is left of the records after the stages, and what each of them did. -/
def runStages : List Stage → List Record → List Record × List StageTrace
  | [], records => (records, [])
  | stage :: rest, records =>
    let kept := records.filter stage.accepts
    let (final, trace) := runStages rest kept
    (final, ⟨stage.name, records.length, kept.length⟩ :: trace)

structure Plan where
  params : Params
  /-- Missing where nothing has to be sifted. -/
  stages : Option (List Stage)
  /-- Whether the backend expresses the whole condition, where that is settled. -/
  complete : Option Bool
  cacheKey : Option String
  warnings : List String

namespace Plan

def empty : Plan := ⟨.empty, none, none, none, []⟩

def stageList (p : Plan) : List Stage :=
  p.stages.getD []

def addStage (p : Plan) (stage : Stage) : Plan :=
  { p with stages := some (p.stageList ++ [stage]) }

def setParam (p : Plan) (key : String) (value : Json) : Plan :=
  { p with params := p.params.insert key value }

/-- The parts that are there, joined where both are. -/
def joinWith {α : Type} (join : α → α → α) : Option α → Option α → Option α
  | some a, some b => some (join a b)
  | some a, none => some a
  | none, b => b

def joinKeys (a b : String) : String :=
  a ++ "|" ++ b

/-- Both conditions: of two values of a parameter the second one counts, and the stages of `q` run
after those of `p`. -/
def merge (p q : Plan) : Plan :=
  { params := p.params.union q.params
    stages := joinWith (· ++ ·) p.stages q.stages
    complete := joinWith (· && ·) p.complete q.complete
    cacheKey := joinWith joinKeys p.cacheKey q.cacheKey
    warnings := p.warnings ++ q.warnings }

def run (p : Plan) (records : List Record) : List Record × List StageTrace :=
  runStages p.stageList records

def accepts (p : Plan) (r : Record) : Bool :=
  p.stageList.all (·.accepts r)

@[simp] theorem joinWith_none {α : Type} (join : α → α → α) (a : Option α) :
    joinWith join a none = a := by
  cases a <;> rfl

@[simp] theorem none_joinWith {α : Type} (join : α → α → α) (a : Option α) :
    joinWith join none a = a := by
  cases a <;> rfl

@[simp] theorem merge_empty (p : Plan) : p.merge empty = p := by
  simp [merge, empty]

end Plan

end NetQuery
