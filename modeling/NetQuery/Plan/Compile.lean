import NetQuery.Plan.Filter

namespace NetQuery

variable [Regex.Library]

/-- The filters in the order in which they are asked. -/
abbrev Registry := List Filter

def Registry.usual : Registry := Filter.all

/-- What compilations have noted and asked for so far. -/
structure Journal where
  params : Params
  stages : List Stage
  filters : List String
  optimizations : List String
  cacheKey : Option String
  warnings : List String

namespace Journal

def empty : Journal := ⟨.empty, [], [], [], none, []⟩

def note (j : Journal) (filters optimizations : List String) : Journal :=
  { j with filters := j.filters ++ filters, optimizations := j.optimizations ++ optimizations }

def finish (j : Journal) (p : Plan) : Journal :=
  { j with
    params := j.params.union p.params
    stages := j.stages ++ p.stageList
    cacheKey := p.cacheKey
    warnings := j.warnings ++ p.warnings }

end Journal

namespace Registry

def handlers (registry : Registry) (entity : Entity) (q : Query) : List Filter :=
  registry.filter (·.accepts entity q)

/-- The plans of all filters that accept a clause, merged in their order. -/
def apply (registry : Registry) (setting : Setting) (q : Query) : Except PlanError Plan :=
  (registry.handlers setting.entity q).foldlM
    (fun total filter => (filter.plan setting q).map total.merge) .empty

structure Step where
  plan : Plan
  filters : List String
  optimizations : List String

def droppedNote : String := "dropped match-all clause"

def pushedNote (q : Query) : String :=
  "pushed '" ++ q.toText ++ "' to backend parameters"

def evaluationName : String := "evaluate"

/-- The plan that leaves a condition to a stage. -/
def residualPlan (q : Query) (p : Predicate) : Plan :=
  { Plan.empty with
    stages := some [⟨"residual:" ++ q.toText, p⟩]
    complete := some false
    cacheKey := some ("query:" ++ q.toText) }

/-- Plans one of `count` conditions. The match-all clause asks for nothing. -/
def step (registry : Registry) (setting : Setting) (count : Nat) (q : Query) :
    Except PlanError Step :=
  if q.isMatchAll then
    .ok ⟨.empty, [], if 1 < count then [droppedNote] else []⟩
  else
    match registry.handlers setting.entity q with
    | [] =>
      match q.predicate setting with
      | .ok p => .ok ⟨residualPlan q p, [evaluationName], []⟩
      | .error e => .error (.clause e)
    | handlers => do
      let plan ← registry.apply setting q
      let pushed := plan.stages.isNone && !plan.params.isEmpty
      .ok ⟨plan, handlers.map Filter.name, if pushed then [pushedNote q] else []⟩

/-- Plans the conditions one after the other, up to the first that has no plan. -/
def compileFrom (registry : Registry) (setting : Setting) (count : Nat) (journal : Journal)
    (total : Plan) : List Query → Journal × Except PlanError Plan
  | [] => (journal.finish total, .ok total)
  | q :: rest =>
    match registry.step setting count q with
    | .error e => (journal, .error e)
    | .ok s =>
      registry.compileFrom setting count (journal.note s.filters s.optimizations)
        (total.merge s.plan) rest

def compile (registry : Registry) (setting : Setting) (journal : Journal) (q : Query) :
    Journal × Except PlanError Plan :=
  registry.compileFrom setting q.conjuncts.length journal .empty q.conjuncts

end Registry

end NetQuery
