import NetQuery.Library
import NetQuery.Proofs.Plan.Merge

namespace NetQuery

/-- Of some sets of parameters the last one that has the parameter counts. -/
theorem Params.get?_foldl_union (all : List Params) (start : Params) (key : String) :
    (all.foldl union start).get? key =
      (all.reverse.findSome? (·.get? key)).or (start.get? key) := by
  induction all generalizing start with
  | nil => rfl
  | cons p rest ih =>
    rw [List.foldl_cons, ih, get?_union, List.reverse_cons, List.findSome?_append, Option.or_assoc]
    simp

def Journal.noteAll (j : Journal) (steps : List Registry.Step) : Journal :=
  { j with
    filters := j.filters ++ steps.flatMap Registry.Step.filters
    optimizations := j.optimizations ++ steps.flatMap Registry.Step.optimizations }

theorem Journal.noteAll_nil (j : Journal) : j.noteAll [] = j := by
  simp [noteAll]

theorem Journal.noteAll_cons (j : Journal) (s : Registry.Step) (steps : List Registry.Step) :
    j.noteAll (s :: steps) = (j.note s.filters s.optimizations).noteAll steps := by
  simp [noteAll, note, List.append_assoc]

namespace Registry

variable {registry : Registry} {setting : Setting} {count : Nat}

variable [Regex.Library]

/-- One of the conditions has no plan, for the reason `e`; those before it have these steps. -/
def FailsAfter (registry : Registry) (setting : Setting) (count : Nat) (qs : List Query)
    (steps : List Step) (e : PlanError) : Prop :=
  ∃ done failed rest, qs = done ++ failed :: rest ∧
    StepsOf registry setting count done steps ∧ registry.step setting count failed = .error e

/-- All that planning a list of conditions can come to: a plan merged from those of all conditions,
which the journal takes over, or the error of one of them, and notes on those before it. -/
theorem compileFrom_cases (journal : Journal) (total : Plan) (qs : List Query) :
    (∃ steps, StepsOf registry setting count qs steps ∧
      registry.compileFrom setting count journal total qs =
        ((journal.noteAll steps).finish (total.mergeAll (steps.map Step.plan)),
          .ok (total.mergeAll (steps.map Step.plan)))) ∨
    (∃ steps e, FailsAfter registry setting count qs steps e ∧
      registry.compileFrom setting count journal total qs = (journal.noteAll steps, .error e)) := by
  induction qs generalizing journal total with
  | nil => exact .inl ⟨[], .nil, by rw [journal.noteAll_nil]; rfl⟩
  | cons q rest ih =>
    cases hs : registry.step setting count q with
    | error e =>
      refine .inr ⟨[], e, ⟨[], q, rest, rfl, .nil, hs⟩, ?_⟩
      rw [compileFrom, hs, journal.noteAll_nil]
    | ok s =>
      have hrest : registry.compileFrom setting count journal total (q :: rest) =
          registry.compileFrom setting count (journal.note s.filters s.optimizations)
            (total.merge s.plan) rest := by
        rw [compileFrom, hs]
      rw [hrest]
      obtain ⟨steps, hsteps, h⟩ | ⟨steps, e, ⟨done, failed, more, rfl, hdone, hfailed⟩, h⟩ :=
        ih (journal.note s.filters s.optimizations) (total.merge s.plan)
      · refine .inl ⟨s :: steps, .cons hs hsteps, ?_⟩
        rw [h, journal.noteAll_cons]
        rfl
      · refine .inr ⟨s :: steps, e, ⟨q :: done, failed, more, rfl, .cons hs hdone, hfailed⟩, ?_⟩
        rw [h, journal.noteAll_cons]

/-- What conditions are planned as does not depend on the journal. -/
theorem compileFrom_snd (journal journal' : Journal) (total : Plan) (qs : List Query) :
    (registry.compileFrom setting count journal total qs).2 =
      (registry.compileFrom setting count journal' total qs).2 := by
  induction qs generalizing journal journal' total with
  | nil => rfl
  | cons q rest ih =>
    rw [compileFrom, compileFrom]
    cases registry.step setting count q with
    | error e => rfl
    | ok s => exact ih _ _ _

end Registry

/-- One call of the compiler. Calls on one journal may differ in everything else. -/
structure Call where
  registry : Registry
  setting : Setting
  query : Query

namespace Call

def run [Regex.Library] (journal : Journal) (c : Call) : Journal × Except PlanError Plan :=
  c.registry.compile c.setting journal c.query

def runAll [Regex.Library] (journal : Journal) : List Call → Journal × List (Except PlanError Plan)
  | [] => (journal, [])
  | c :: rest =>
    let (next, result) := c.run journal
    let (final, results) := runAll next rest
    (final, result :: results)

end Call

/-- The journal has taken over some plans, in their order, since it was `start`. -/
structure Journal.TakesOver (start : Journal) (plans : List Plan) (j : Journal) : Prop where
  params : j.params = (plans.map Plan.params).foldl Params.union start.params
  stages : j.stages = start.stages ++ plans.flatMap Plan.stageList
  warnings : j.warnings = start.warnings ++ plans.flatMap Plan.warnings
  cacheKey : j.cacheKey = (plans.getLast?.map Plan.cacheKey).getD start.cacheKey

theorem Journal.TakesOver.noteAll (j : Journal) (steps : List Registry.Step) :
    j.TakesOver [] (j.noteAll steps) :=
  ⟨rfl, (List.append_nil _).symm, (List.append_nil _).symm, rfl⟩

theorem Journal.TakesOver.trans {start mid final : Journal} {plans plans' : List Plan}
    (h : start.TakesOver plans mid) (h' : mid.TakesOver plans' final) :
    start.TakesOver (plans ++ plans') final where
  params := by rw [h'.params, h.params, List.map_append, List.foldl_append]
  stages := by rw [h'.stages, h.stages, List.flatMap_append, List.append_assoc]
  warnings := by rw [h'.warnings, h.warnings, List.flatMap_append, List.append_assoc]
  cacheKey := by
    rw [h'.cacheKey, h.cacheKey, List.getLast?_append, Option.map_or, Option.getD_or]

namespace Call

variable {journal : Journal} {c : Call}

section

variable [Regex.Library]

/-- A successful call hands its plan to the journal. -/
theorem takesOver_of_ok {p : Plan} (h : (c.run journal).2 = .ok p) :
    journal.TakesOver [p] (c.run journal).1 := by
  unfold run Registry.compile at h ⊢
  obtain ⟨steps, -, hrun⟩ | ⟨steps, e, -, hrun⟩ :=
    Registry.compileFrom_cases journal .empty c.query.conjuncts
  · rw [hrun] at h ⊢
    cases h
    exact ⟨rfl, by simp [Journal.finish, Journal.noteAll],
      by simp [Journal.finish, Journal.noteAll], rfl⟩
  · rw [hrun] at h
    cases h

/-- A failing call leaves notes only, those on the conditions before the one that has no plan. -/
theorem noteAll_of_error {e : PlanError} (h : (c.run journal).2 = .error e) :
    ∃ steps, c.registry.FailsAfter c.setting c.query.conjuncts.length c.query.conjuncts steps e ∧
      (c.run journal).1 = journal.noteAll steps := by
  unfold run Registry.compile at h ⊢
  obtain ⟨steps, -, hrun⟩ | ⟨steps, e', hfails, hrun⟩ :=
    Registry.compileFrom_cases journal .empty c.query.conjuncts
  · rw [hrun] at h
    cases h
  · rw [hrun] at h ⊢
    cases h
    exact ⟨steps, hfails, rfl⟩

theorem takesOver_run (journal : Journal) (c : Call) :
    journal.TakesOver (c.run journal).2.toOption.toList (c.run journal).1 := by
  cases h : (c.run journal).2 with
  | ok p => exact takesOver_of_ok h
  | error e =>
    obtain ⟨steps, -, hnotes⟩ := noteAll_of_error h
    rw [hnotes]
    exact .noteAll journal steps

/-- After some calls a journal has taken over the plans of the successful ones. -/
theorem takesOver_runAll (journal : Journal) (calls : List Call) :
    journal.TakesOver ((runAll journal calls).2.filterMap Except.toOption)
      (runAll journal calls).1 := by
  induction calls generalizing journal with
  | nil =>
    have h := Journal.TakesOver.noteAll journal []
    rwa [journal.noteAll_nil] at h
  | cons c rest ih =>
    have h := (takesOver_run journal c).trans (ih (c.run journal).1)
    rw [runAll, List.filterMap_cons]
    cases hresult : (c.run journal).2 with
    | ok p => rwa [hresult] at h
    | error e => rwa [hresult] at h

/-- What calls on one journal answer does not depend on the journal. -/
theorem snd_runAll (journal : Journal) (calls : List Call) :
    (runAll journal calls).2 = calls.map fun c => (c.run .empty).2 := by
  induction calls generalizing journal with
  | nil => rfl
  | cons c rest ih =>
    have hfirst : (c.run journal).2 = (c.run .empty).2 := Registry.compileFrom_snd _ _ _ _
    rw [runAll, List.map_cons, ← hfirst, ← ih (c.run journal).1]

/-- After any calls on an empty journal, its parameters are those of the successful calls, where the
last call that has a parameter counts, its stages and its warnings are theirs in their order, and
its cache key is that of the last of them. A call that fails, on any journal, adds notes on the
conditions before the first one that has no plan, and changes nothing else. -/
theorem journal_runAll (calls : List Call) :
    let plans := calls.filterMap fun c => (c.run .empty).2.toOption
    let journal := (runAll .empty calls).1
    ((runAll .empty calls).2.filterMap Except.toOption = plans ∧
      journal.params = (plans.map Plan.params).foldl Params.union .empty ∧
      (∀ key, journal.params.get? key = plans.reverse.findSome? (·.params.get? key)) ∧
      journal.stages = plans.flatMap Plan.stageList ∧
      journal.warnings = plans.flatMap Plan.warnings ∧
      journal.cacheKey = plans.getLast?.bind Plan.cacheKey) ∧
    ∀ (before : Journal) (c : Call) (e : PlanError), (c.run before).2 = .error e →
      ∃ done failed rest steps, c.query.conjuncts = done ++ failed :: rest ∧
        c.registry.StepsOf c.setting c.query.conjuncts.length done steps ∧
        c.registry.step c.setting c.query.conjuncts.length failed = .error e ∧
        (c.run before).1 = { before with
          filters := before.filters ++ steps.flatMap Registry.Step.filters
          optimizations := before.optimizations ++ steps.flatMap Registry.Step.optimizations } := by
  intro plans journal
  have hresults : (runAll .empty calls).2.filterMap Except.toOption = plans := by
    rw [snd_runAll, List.filterMap_map]
    rfl
  have h : Journal.empty.TakesOver plans journal := hresults ▸ takesOver_runAll .empty calls
  refine ⟨⟨hresults, h.params, fun key => ?_, h.stages, h.warnings, ?_⟩,
    fun before c e herror => ?_⟩
  · rw [h.params, Params.get?_foldl_union, ← List.map_reverse, List.findSome?_map]
    exact Option.or_none
  · rw [h.cacheKey]
    cases plans.getLast? <;> rfl
  · obtain ⟨steps, ⟨done, failed, rest, hsplit, hdone, hfailed⟩, hnotes⟩ := noteAll_of_error herror
    exact ⟨done, failed, rest, steps, hsplit, hdone, hfailed, hnotes⟩

end

theorem journal_runAll_of_failing_call :
    let setting : Setting := ⟨.alarms, 0, none⟩
    let failing : Call := ⟨.usual, setting,
      .and (.field "severity" (.text "high") none) (.field "ts" (.text "noon") none)⟩
    let calls : List Call := [⟨.usual, setting, .field "severity" (.text "low") none⟩, failing,
      ⟨[], setting, .field "protocol" (.text "tcp") none⟩]
    let e : PlanError := .clause (.time (.unreadable "noon" .unknownForm))
    let journal := (runAll .empty calls).1
    journal.params.get? "severity" = some (.str "low") ∧
      journal.cacheKey = some "query:protocol:tcp" ∧ (failing.run journal).2 = .error e ∧
      ∃ done failed rest steps, failing.query.conjuncts = done ++ failed :: rest ∧
        Registry.usual.StepsOf setting 2 done steps ∧
        Registry.usual.step setting 2 failed = .error e ∧
        (failing.run journal).1 = { journal with
          filters := journal.filters ++ steps.flatMap Registry.Step.filters
          optimizations :=
            journal.optimizations ++ steps.flatMap Registry.Step.optimizations } := by
  intro setting failing calls e journal
  obtain ⟨⟨-, -, hparams, -, -, hkey⟩, hfails⟩ := journal_runAll calls
  have herror : (failing.run journal).2 = .error e := rfl
  exact ⟨(hparams "severity").trans rfl, hkey.trans rfl, herror, hfails journal failing e herror⟩

end Call

end NetQuery
