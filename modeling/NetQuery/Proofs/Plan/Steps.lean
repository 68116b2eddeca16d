import Mathlib.Data.List.Forall2
import NetQuery.Plan.Compile

namespace NetQuery

theorem exists_right_of_forall₂ {α β : Type} {R : α → β → Prop} {as : List α} {bs : List β}
    (h : List.Forall₂ R as bs) {a : α} (ha : a ∈ as) : ∃ b ∈ bs, R a b := by
  induction h with
  | nil => cases ha
  | cons hab _ ih =>
    rcases List.mem_cons.mp ha with rfl | ha
    · exact ⟨_, List.mem_cons_self, hab⟩
    · obtain ⟨b, hb, hab⟩ := ih ha
      exact ⟨b, List.mem_cons_of_mem _ hb, hab⟩

theorem exists_left_of_forall₂ {α β : Type} {R : α → β → Prop} {as : List α} {bs : List β}
    (h : List.Forall₂ R as bs) {b : β} (hb : b ∈ bs) : ∃ a ∈ as, R a b :=
  exists_right_of_forall₂ h.flip hb

namespace Plan

def mergeAll (total : Plan) (plans : List Plan) : Plan :=
  plans.foldl merge total

@[simp] theorem mergeAll_nil (total : Plan) : total.mergeAll [] = total := rfl

@[simp] theorem mergeAll_cons (total p : Plan) (plans : List Plan) :
    total.mergeAll (p :: plans) = (total.merge p).mergeAll plans := rfl

@[simp] theorem stageList_empty : empty.stageList = [] := rfl

@[simp] theorem stageList_merge (p q : Plan) :
    (p.merge q).stageList = p.stageList ++ q.stageList := by
  cases hp : p.stages <;> cases hq : q.stages <;> simp [merge, stageList, joinWith, hp, hq]

@[simp] theorem stageList_mergeAll (total : Plan) (plans : List Plan) :
    (total.mergeAll plans).stageList = total.stageList ++ plans.flatMap stageList := by
  induction plans generalizing total with
  | nil => simp
  | cons p rest ih => simp [ih]

theorem joinWith_eq_none_iff {α : Type} {join : α → α → α} {a b : Option α} :
    joinWith join a b = none ↔ a = none ∧ b = none := by
  cases a <;> cases b <;> simp [joinWith]

/-- A merge has no stages to speak of only when no part has. -/
theorem stages_mergeAll_eq_none {total : Plan} {plans : List Plan} :
    (total.mergeAll plans).stages = none ↔
      total.stages = none ∧ ∀ p ∈ plans, p.stages = none := by
  induction plans generalizing total with
  | nil => simp
  | cons p rest ih =>
    have hstep : (total.merge p).stages = none ↔ total.stages = none ∧ p.stages = none :=
      joinWith_eq_none_iff
    rw [mergeAll_cons, ih, hstep, List.forall_mem_cons, and_assoc]

theorem complete_merge_eq_false {p q : Plan} : (p.merge q).complete = some false ↔
    p.complete = some false ∨ q.complete = some false := by
  unfold merge
  generalize p.complete = a
  generalize q.complete = b
  cases a <;> cases b <;> simp [joinWith, ← Bool.and_eq_false_iff]

/-- A merge that does not claim to fall short has no part that does. -/
theorem complete_mergeAll {total : Plan} {plans : List Plan}
    (h : (total.mergeAll plans).complete ≠ some false) :
    total.complete ≠ some false ∧ ∀ p ∈ plans, p.complete ≠ some false := by
  induction plans generalizing total with
  | nil => exact ⟨h, by simp⟩
  | cons p rest ih =>
    obtain ⟨hmerge, hrest⟩ := ih h
    rw [ne_eq, complete_merge_eq_false, not_or] at hmerge
    exact ⟨hmerge.1, List.forall_mem_cons.mpr ⟨hmerge.2, hrest⟩⟩

theorem accepts_iff {p : Plan} {r : Record} :
    p.accepts r = true ↔ ∀ s ∈ p.stageList, s.accepts r = true :=
  List.all_eq_true

theorem accepts_mergeAll {plans : List Plan} {r : Record} :
    (empty.mergeAll plans).accepts r = true ↔ ∀ p ∈ plans, p.accepts r = true := by
  simp only [accepts_iff, stageList_mergeAll, stageList_empty, List.nil_append, List.mem_flatMap]
  exact ⟨fun h p hp s hs => h s ⟨p, hp, hs⟩, fun h s ⟨p, hp, hs⟩ => h p hp s hs⟩

/-- The records left after all stages are those that pass every one of them, in their order. -/
theorem run_kept (p : Plan) (records : List Record) :
    (p.run records).1 = records.filter p.accepts := by
  suffices h : ∀ stages : List Stage, (runStages stages records).1 =
      records.filter fun r => stages.all (·.accepts r) from h p.stageList
  intro stages
  induction stages generalizing records with
  | nil => simp [runStages]
  | cons stage rest ih => simp [runStages, ih, List.filter_filter, Bool.and_comm]

end Plan

namespace Filter

variable {p : Plan} {key : String} {value : Option Json}

-- A parameter that may be missing touches the parameters only.

@[simp] theorem stages_setOptional : (setOptional p key value).stages = p.stages := by
  cases value <;> rfl

@[simp] theorem cacheKey_setOptional : (setOptional p key value).cacheKey = p.cacheKey := by
  cases value <;> rfl

@[simp] theorem warnings_setOptional : (setOptional p key value).warnings = p.warnings := by
  cases value <;> rfl

end Filter

namespace Registry

variable {registry : Registry} {setting : Setting} {count : Nat}

variable [Regex.Library]

/-- What the filters make of a clause is the merge of what each of them makes of it. -/
theorem apply_ok {q : Query} {plan : Plan} (h : registry.apply setting q = .ok plan) :
    ∃ plans, List.Forall₂ (fun filter p => filter.plan setting q = .ok p)
        (registry.handlers setting.entity q) plans ∧ plan = Plan.empty.mergeAll plans := by
  unfold apply at h
  generalize registry.handlers setting.entity q = filters at h
  generalize Plan.empty = total at h
  induction filters generalizing total with
  | nil =>
    cases h
    exact ⟨[], .nil, rfl⟩
  | cons filter rest ih =>
    rw [List.foldlM_cons] at h
    cases hp : filter.plan setting q with
    | error e => rw [hp] at h; cases h
    | ok p =>
      rw [hp] at h
      obtain ⟨plans, hplans, hplan⟩ := ih _ h
      exact ⟨p :: plans, .cons hp hplans, hplan⟩

/-- All that planning one condition can come to: nothing for the match-all clause, a stage of its
own where no filter accepts the condition, else what the filters make of it. -/
theorem step_cases {q : Query} {s : Step} (h : registry.step setting count q = .ok s) :
    (q.isMatchAll = true ∧ s = ⟨.empty, [], if 1 < count then [droppedNote] else []⟩) ∨
    (q.isMatchAll = false ∧ registry.handlers setting.entity q = [] ∧
      ∃ p, q.predicate setting = .ok p ∧ s = ⟨residualPlan q p, [evaluationName], []⟩) ∨
    (q.isMatchAll = false ∧ registry.handlers setting.entity q ≠ [] ∧
      ∃ plan, registry.apply setting q = .ok plan ∧
        s = ⟨plan, (registry.handlers setting.entity q).map Filter.name,
          if plan.stages.isNone && !plan.params.isEmpty then [pushedNote q] else []⟩) := by
  unfold step at h
  split at h
  · next hm =>
    cases h
    exact .inl ⟨hm, rfl⟩
  · next hm =>
    have hm : q.isMatchAll = false := by simpa using hm
    split at h
    · next hh =>
      split at h
      · next p hp =>
        cases h
        exact .inr (.inl ⟨hm, hh, p, hp, rfl⟩)
      · cases h
    · next hh =>
      cases ha : registry.apply setting q with
      | error e => rw [ha] at h; cases h
      | ok plan =>
        rw [ha] at h
        cases h
        exact .inr (.inr ⟨hm, hh, plan, rfl, rfl⟩)

/-- Every condition of a list has a step of its own. -/
def StepsOf (registry : Registry) (setting : Setting) (count : Nat) (qs : List Query)
    (steps : List Step) : Prop :=
  List.Forall₂ (fun q s => registry.step setting count q = .ok s) qs steps

/-- A compilation that succeeds has planned every condition, and its plan is their merge. -/
theorem compileFrom_ok {journal : Journal} {total p : Plan} {qs : List Query}
    (h : (registry.compileFrom setting count journal total qs).2 = .ok p) :
    ∃ steps, StepsOf registry setting count qs steps ∧
      p = total.mergeAll (steps.map Step.plan) := by
  induction qs generalizing journal total with
  | nil =>
    simp only [compileFrom, Except.ok.injEq] at h
    exact ⟨[], .nil, h.symm⟩
  | cons q rest ih =>
    unfold compileFrom at h
    split at h
    · cases h
    · next s hs =>
      obtain ⟨steps, hsteps, hp⟩ := ih h
      exact ⟨s :: steps, .cons hs hsteps, hp⟩

theorem compile_ok {journal : Journal} {q : Query} {p : Plan}
    (h : (registry.compile setting journal q).2 = .ok p) :
    ∃ steps, StepsOf registry setting q.conjuncts.length q.conjuncts steps ∧
      p = Plan.empty.mergeAll (steps.map Step.plan) :=
  compileFrom_ok h

end Registry

end NetQuery
