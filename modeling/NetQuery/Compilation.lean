import NetQuery.Config
import NetQuery.Plan.Compile
import NetQuery.Query.Verdict
import NetQuery.Score.Gate

namespace NetQuery

variable [Regex.Library]

structure Target where
  config : Config
  registry : Registry
  entity : Entity
  /-- The second from which relative times count back. -/
  now : Int

def Target.setting (t : Target) : Setting :=
  ⟨t.entity, t.now, some t.config.tolerance⟩

structure Compilation where
  entity : Entity
  verdict : Verdict
  /-- There is one when the query is valid. -/
  plan : Option Plan
  weighing : Score.Weighing
  /-- The text after boolean conditions are respelled. -/
  text : String
  journal : Journal

namespace Compilation

/-- The text in which boolean conditions are respelled, where that is wanted and needed. -/
def encodedText (target : Target) (text : String) : String :=
  if target.config.encodesBooleans && Spelling.needsEncoding target.entity text then
    Spelling.encode target.config.encoding target.entity text
  else text

def withWarnings (v : Verdict) (p : Plan) : Verdict :=
  { v with warnings := v.warnings ++ p.warnings }

/-- A verdict that an error of the plan overturns. -/
def overturned (v : Verdict) (e : PlanError) : Verdict :=
  { v with isValid := false, errors := v.errors ++ [e.message], query := none }

/-- Compiles a text that has passed the gate. -/
def ofAdmitted (target : Target) (weighing : Score.Weighing) (text : String) : Compilation :=
  let text := encodedText target text
  let verdict := Verdict.ofText text (some target.entity)
  match verdict.query with
  | none => ⟨target.entity, verdict, none, weighing, text, .empty⟩
  | some q =>
    match target.registry.compile target.setting .empty q with
    | (journal, .ok plan) =>
      ⟨target.entity, withWarnings verdict plan, some plan, weighing, text, journal⟩
    | (journal, .error e) =>
      ⟨target.entity, overturned verdict e, none, weighing, text, journal⟩

def ofText (target : Target) (text : String) : Compilation :=
  let gate := Score.admission text target.config.maxComplexity
  if gate.isValid then ofAdmitted target gate.weighing text
  else
    ⟨target.entity, .invalid gate.errors, none, gate.weighing, text, .empty⟩

def isValid (c : Compilation) : Bool :=
  c.verdict.isValid

/-- Sifts fetched records. An invalid query keeps none. -/
def run (c : Compilation) (records : List Record) : List Record × List StageTrace :=
  match c.plan with
  | some plan => plan.run records
  | none => ([], [])

def strings (xs : List String) : Json :=
  .arr (xs.map .str)

def summary (c : Compilation) : Json :=
  let plan := c.plan.getD .empty
  .obj [("entity", .str c.entity.name), ("is_valid", .bool c.isValid),
    ("errors", strings c.verdict.errors), ("warnings", strings c.verdict.warnings),
    ("suggestions", strings c.verdict.hints), ("translated_query", .str c.text),
    ("api_params", plan.params.toJson),
    ("post_processing", strings (plan.stageList.map (·.name))),
    ("cache_key", Query.optional (plan.cacheKey.map .str)),
    ("filters_applied", strings c.journal.filters),
    ("optimizations", strings c.journal.optimizations),
    ("complexity", .float c.weighing.complexity), ("optimized", .str c.weighing.optimized)]

end Compilation

end NetQuery
