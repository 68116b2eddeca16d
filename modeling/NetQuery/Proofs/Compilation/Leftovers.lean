import NetQuery.Library
import NetQuery.Proofs.Compilation
import NetQuery.Proofs.Plan.Journal

namespace NetQuery

namespace Registry

variable {registry : Registry} {setting : Setting} {count : Nat} {qs : List Query}
  {steps : List Step} {e : PlanError}

variable [Regex.Library]

/-- Conditions are planned up to the first that has no plan, and the journal has notes on these. -/
theorem FailsAfter.compileFrom (h : FailsAfter registry setting count qs steps e)
    (journal : Journal) (total : Plan) :
    registry.compileFrom setting count journal total qs = (journal.noteAll steps, .error e) := by
  obtain ⟨done, failed, rest, rfl, hdone, hfailed⟩ := h
  unfold StepsOf at hdone
  induction hdone generalizing journal total with
  | nil => rw [List.nil_append, Registry.compileFrom, hfailed, journal.noteAll_nil]
  | cons hs _ ih =>
    rw [List.cons_append, Registry.compileFrom, hs, journal.noteAll_cons]
    exact ih _ _

/-- Each of several conditions that has a plan is noted. -/
theorem notes_of_step {q : Query} {s : Step} (hcount : 1 < count)
    (h : registry.step setting count q = .ok s) : s.filters ≠ [] ∨ s.optimizations ≠ [] := by
  obtain ⟨-, rfl⟩ | ⟨-, -, p, -, rfl⟩ | ⟨-, hhandlers, plan, -, rfl⟩ := step_cases h
  · exact .inr (by simp [hcount])
  · exact .inl (List.cons_ne_nil _ _)
  · exact .inl (List.map_eq_nil_iff.not.mpr hhandlers)

/-- The conditions before one that has no plan are noted, if there are any. -/
theorem FailsAfter.notes (h : FailsAfter registry setting qs.length qs steps e) :
    (steps.flatMap Step.filters = [] ∧ steps.flatMap Step.optimizations = []) ↔ steps = [] := by
  obtain ⟨done, failed, rest, rfl, hdone, -⟩ := h
  cases hdone with
  | nil => simp
  | @cons q s done steps hs _ =>
    have hcount : 1 < (q :: done ++ failed :: rest).length := by
      simp only [List.cons_append, List.length_cons, List.length_append]
      omega
    have hnotes := notes_of_step hcount hs
    simp only [List.flatMap_cons, List.append_eq_nil_iff, reduceCtorEq, iff_false]
    rintro ⟨⟨hfilters, -⟩, hoptimizations, -⟩
    exact hnotes.elim (absurd hfilters) (absurd hoptimizations)

end Registry

namespace Compilation

variable {target : Target} {text : String} {steps : List Registry.Step}

theorem summary_filters (c : Compilation) :
    c.summary.member? "filters_applied" = some (strings c.journal.filters) := rfl

theorem summary_optimizations (c : Compilation) :
    c.summary.member? "optimizations" = some (strings c.journal.optimizations) := rfl

/-- Without a plan the summary has no parameters, no stages and no cache key. -/
theorem summary_of_no_plan {c : Compilation} (h : c.plan = none) :
    c.summary.member? "api_params" = some (.obj []) ∧
      c.summary.member? "post_processing" = some (.arr []) ∧
      c.summary.member? "cache_key" = some .null := by
  obtain ⟨entity, verdict, plan, weighing, text, journal⟩ := c
  obtain rfl : plan = none := h
  exact ⟨rfl, rfl, rfl⟩

section

variable [Regex.Library]

/-- The text is a query, of which one condition has no plan; those before it have these steps. -/
def BreaksOff (target : Target) (text : String) (steps : List Registry.Step) : Prop :=
  (Score.admission text target.config.maxComplexity).isValid = true ∧
    ∃ q e, (Verdict.ofText (encodedText target text) (some target.entity)).query = some q ∧
      target.registry.FailsAfter target.setting q.conjuncts.length q.conjuncts steps e

theorem BreaksOff.journal (h : BreaksOff target text steps) :
    (ofText target text).journal = Journal.empty.noteAll steps := by
  obtain ⟨hgate, q, e, hq, hfails⟩ := h
  have hplan : target.registry.compile target.setting .empty q =
      (Journal.empty.noteAll steps, .error e) := hfails.compileFrom .empty .empty
  simp only [ofText, hgate, if_true, ofAdmitted, hq, hplan]

theorem BreaksOff.notes (h : BreaksOff target text steps) :
    (ofText target text).journal.filters = steps.flatMap Registry.Step.filters ∧
      (ofText target text).journal.optimizations =
        steps.flatMap Registry.Step.optimizations := by
  rw [h.journal]
  exact ⟨rfl, rfl⟩

/-- A compilation that is not valid breaks off, or has noted nothing. -/
theorem breaksOff_or_journal (h : (ofText target text).isValid = false) :
    (∃ steps, BreaksOff target text steps) ∨ (ofText target text).journal = .empty := by
  cases hgate : (Score.admission text target.config.maxComplexity).isValid with
  | false => exact .inr (by simp [ofText, hgate])
  | true =>
    cases hq : (Verdict.ofText (encodedText target text) (some target.entity)).query with
    | none => exact .inr (by simp [ofText, hgate, ofAdmitted, hq])
    | some q =>
      cases hplan : target.registry.compile target.setting .empty q with
      | mk journal result =>
        cases result with
        | ok p =>
          -- with a plan the compilation would be valid
          have hsome : (ofText target text).plan = some p := by
            simp [ofText, hgate, ofAdmitted, hq, hplan]
          rw [isValid, (coherent_ofText target text).plan.mpr ⟨p, hsome⟩] at h
          cases h
        | error e =>
          have herror : (Call.run .empty ⟨target.registry, target.setting, q⟩).2 = .error e :=
            congrArg Prod.snd hplan
          obtain ⟨steps, hfails, -⟩ := Call.noteAll_of_error herror
          exact .inl ⟨steps, hgate, q, e, hq, hfails⟩

theorem plan_of_invalid (h : (ofText target text).isValid = false) :
    (ofText target text).plan = none := by
  cases hplan : (ofText target text).plan with
  | none => rfl
  | some p =>
    rw [isValid, (coherent_ofText target text).plan.mpr ⟨p, hplan⟩] at h
    cases h

/-- The summary of a compilation that is not valid has no parameters, no stages and no cache key.
Its lists of filters and optimizations are both empty just when no condition was planned before one
that has no plan; they are the notes on the conditions that were. -/
theorem summary_of_invalid (h : (ofText target text).isValid = false) :
    let summary := (ofText target text).summary
    (summary.member? "api_params" = some (.obj []) ∧
      summary.member? "post_processing" = some (.arr []) ∧
      summary.member? "cache_key" = some .null) ∧
    ((summary.member? "filters_applied" = some (.arr []) ∧
        summary.member? "optimizations" = some (.arr [])) ↔
      ¬ ∃ steps, BreaksOff target text steps ∧ steps ≠ []) ∧
    ∀ steps, BreaksOff target text steps →
      summary.member? "filters_applied" =
        some (strings (steps.flatMap Registry.Step.filters)) ∧
      summary.member? "optimizations" =
        some (strings (steps.flatMap Registry.Step.optimizations)) := by
  intro summary
  refine ⟨summary_of_no_plan (plan_of_invalid h), ?_, fun steps hbreaks => ?_⟩
  · rw [summary_filters, summary_optimizations]
    constructor
    · rintro ⟨hf, ho⟩ ⟨steps, hbreaks, hne⟩
      obtain ⟨hf', ho'⟩ := hbreaks.notes
      obtain ⟨-, q, e, -, hfails⟩ := hbreaks
      simp only [strings, hf', ho', Option.some.injEq, Json.arr.injEq, List.map_eq_nil_iff] at hf ho
      exact hne (hfails.notes.mp ⟨hf, ho⟩)
    · intro hnone
      obtain ⟨steps, hbreaks⟩ | hempty := breaksOff_or_journal h
      · obtain rfl : steps = [] := Classical.byContradiction fun hne => hnone ⟨steps, hbreaks, hne⟩
        obtain ⟨hf, ho⟩ := hbreaks.notes
        rw [hf, ho]
        exact ⟨rfl, rfl⟩
      · rw [hempty]
        exact ⟨rfl, rfl⟩
  · obtain ⟨hf, ho⟩ := hbreaks.notes
    rw [summary_filters, summary_optimizations, hf, ho]
    exact ⟨rfl, rfl⟩

end

/-- The first condition has no plan, so nothing is noted. -/
theorem summary_of_invalid_of_unreadable_first :
    let c := ofText ⟨.usual, .usual, .alarms, 1705329342⟩ "timestamp:noon AND severity:high"
    c.isValid = false ∧ c.summary.member? "api_params" = some (.obj []) ∧
      c.summary.member? "cache_key" = some .null ∧
      c.journal.filters = [] ∧ c.journal.optimizations = [] ∧
      ¬ ∃ steps, BreaksOff ⟨.usual, .usual, .alarms, 1705329342⟩
        "timestamp:noon AND severity:high" steps ∧ steps ≠ [] := by
  intro c
  have hinvalid : c.isValid = false := by decide +kernel
  have hnotes : c.journal.filters = [] ∧ c.journal.optimizations = [] := by decide +kernel
  obtain ⟨⟨hparams, -, hkey⟩, hnone, -⟩ := summary_of_invalid hinvalid
  refine ⟨hinvalid, hparams, hkey, hnotes.1, hnotes.2, hnone.mp ?_⟩
  rw [summary_filters, summary_optimizations, hnotes.1, hnotes.2]
  exact ⟨rfl, rfl⟩

/-- The condition before the one that has no plan stays in the summary of the invalid query. -/
theorem summary_of_severity_and_unreadable_time :
    let c := ofText ⟨.usual, .usual, .alarms, 1705329342⟩ "severity:high AND timestamp:noon"
    c.isValid = false ∧
      c.summary.member? "filters_applied" = some (.arr [.str "severity"]) ∧
      c.summary.member? "optimizations" =
        some (.arr [.str "pushed 'severity:high' to backend parameters"]) := by
  intro c
  have hinvalid : c.isValid = false := by decide +kernel
  have hnotes : c.journal.filters = ["severity"] ∧
      c.journal.optimizations = ["pushed 'severity:high' to backend parameters"] := by
    decide +kernel
  rw [summary_filters, summary_optimizations, hnotes.1, hnotes.2]
  exact ⟨hinvalid, rfl, rfl⟩

end Compilation

end NetQuery
