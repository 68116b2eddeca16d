import NetQuery.Library
import NetQuery.Proofs.Plan.Steps

namespace NetQuery

namespace Plan

/-- What a plan claims agrees with its stages: it claims to fall short just where it sifts, and
where it does not sift it has no list of stages at all. -/
structure WellFlagged (p : Plan) : Prop where
  stages_ne_nil : p.stages ≠ some []
  falls_short_iff : p.complete = some false ↔ p.stages ≠ none

variable {p q total : Plan} {plans : List Plan}

theorem wellFlagged_empty : empty.WellFlagged :=
  ⟨by simp [empty], by simp [empty]⟩

theorem wellFlagged_of_sent (hs : p.stages = none) (hc : p.complete = some true) :
    p.WellFlagged ∧ p.complete ≠ none := by
  refine ⟨⟨?_, ?_⟩, ?_⟩ <;> simp [hs, hc]

theorem wellFlagged_of_sifting {stage : Stage} (hs : p.stages = some [stage])
    (hc : p.complete = some false) : p.WellFlagged ∧ p.complete ≠ none := by
  refine ⟨⟨?_, ?_⟩, ?_⟩ <;> simp [hs, hc]

/-- A merge claims nothing only when no part claims anything. -/
theorem complete_mergeAll_eq_none :
    (total.mergeAll plans).complete = none ↔
      total.complete = none ∧ ∀ p ∈ plans, p.complete = none := by
  induction plans generalizing total with
  | nil => simp
  | cons p rest ih =>
    have hstep : (total.merge p).complete = none ↔ total.complete = none ∧ p.complete = none :=
      joinWith_eq_none_iff
    rw [mergeAll_cons, ih, hstep, List.forall_mem_cons, and_assoc]

namespace WellFlagged

theorem stageList_ne_nil_iff (h : p.WellFlagged) : p.stageList ≠ [] ↔ p.complete = some false := by
  rw [h.falls_short_iff]
  have hne := h.stages_ne_nil
  unfold stageList
  cases hs : p.stages with
  | none => simp
  | some stages =>
    rw [hs] at hne
    simpa using hne

/-- A merge of two plans falls short where one of them does, and it sifts where one of them does. -/
theorem merge (hp : p.WellFlagged) (hq : q.WellFlagged) : (p.merge q).WellFlagged := by
  constructor
  · intro hnil
    have hparts : p.stages = some [] ∨ q.stages = some [] := by
      simp only [Plan.merge] at hnil
      generalize p.stages = a at hnil
      generalize q.stages = b at hnil
      cases a <;> cases b <;> simp_all [joinWith]
    rcases hparts with hnil | hnil
    · exact hp.stages_ne_nil hnil
    · exact hq.stages_ne_nil hnil
  · have hstages : (p.merge q).stages = none ↔ p.stages = none ∧ q.stages = none :=
      joinWith_eq_none_iff
    rw [complete_merge_eq_false, hp.falls_short_iff, hq.falls_short_iff, ne_eq, ne_eq, ne_eq,
      hstages, Decidable.not_and_iff_or_not]

theorem mergeAll (htotal : total.WellFlagged) (h : ∀ p ∈ plans, p.WellFlagged) :
    (total.mergeAll plans).WellFlagged := by
  induction plans generalizing total with
  | nil => exact htotal
  | cons p rest ih =>
    obtain ⟨hp, hrest⟩ := List.forall_mem_cons.mp h
    exact ih (htotal.merge hp) hrest

end WellFlagged

end Plan

namespace Filter

variable {setting : Setting} {filter : Filter} {q : Query} {p : Plan}

theorem wellFlagged_windowPlan (entity : Entity) (name : String) (w : Window) :
    (windowPlan entity name w).WellFlagged ∧ (windowPlan entity name w).complete ≠ none := by
  cases entity with
  | flows | alarms => exact Plan.wellFlagged_of_sent (by simp [windowPlan, Plan.empty]) rfl
  | rules | devices | targetLists => exact Plan.wellFlagged_of_sifting rfl rfl

theorem wellFlagged_pass {key : String} (hp : pass filter key q = .ok p) :
    p.WellFlagged ∧ p.complete ≠ none := by
  unfold pass at hp
  split at hp
  · split at hp
    · cases hp
      exact Plan.wellFlagged_of_sent rfl rfl
    · cases hp
  · cases hp

/-- The plan of a clause claims something, and what it claims agrees with its stages. -/
theorem wellFlagged_plan [Regex.Library] (hp : filter.plan setting q = .ok p) :
    p.WellFlagged ∧ p.complete ≠ none := by
  cases filter with
  | timeRange =>
    cases hw : window setting q with
    | error e => simp [plan, hw, Except.map] at hp
    | ok w =>
      simp only [plan, hw, Except.map, Except.ok.injEq] at hp
      rw [← hp]
      exact wellFlagged_windowPlan setting.entity _ w
  | address =>
    simp only [plan] at hp
    split at hp
    · cases hp
      exact Plan.wellFlagged_of_sifting rfl rfl
    · cases hp
      exact Plan.wellFlagged_of_sifting rfl rfl
    · cases hp
  | severity => exact wellFlagged_pass hp
  | protocol => exact wellFlagged_pass hp

end Filter

namespace Registry

variable {registry : Registry} {setting : Setting}

section

variable [Regex.Library]

/-- Where filters accept a clause, what they make of it claims something, in agreement with its
stages. -/
theorem wellFlagged_apply {q : Query} {p : Plan} (hh : registry.handlers setting.entity q ≠ [])
    (hp : registry.apply setting q = .ok p) : p.WellFlagged ∧ p.complete ≠ none := by
  obtain ⟨plans, hplans, rfl⟩ := apply_ok hp
  have hall : ∀ p ∈ plans, p.WellFlagged ∧ p.complete ≠ none := by
    intro p hp
    obtain ⟨filter, -, hplan⟩ := exists_left_of_forall₂ hplans hp
    exact Filter.wellFlagged_plan hplan
  constructor
  · apply Plan.wellFlagged_empty.mergeAll
    intro p hp
    exact (hall p hp).1
  · rw [ne_eq, Plan.complete_mergeAll_eq_none]
    intro ⟨_, hnone⟩
    obtain ⟨filter, hfilter⟩ := List.exists_mem_of_ne_nil _ hh
    obtain ⟨p, hp, -⟩ := exists_right_of_forall₂ hplans hfilter
    exact (hall p hp).2 (hnone p hp)

/-- The plan of one condition claims nothing for the match-all clause only, and what it claims
agrees with its stages. -/
theorem wellFlagged_step {count : Nat} {q : Query} {s : Step}
    (h : registry.step setting count q = .ok s) :
    s.plan.WellFlagged ∧ (s.plan.complete = none ↔ q.isMatchAll = true) := by
  rcases step_cases h with ⟨hm, rfl⟩ | ⟨hm, -, P, -, rfl⟩ | ⟨hm, hh, p, hp, rfl⟩
  · exact ⟨Plan.wellFlagged_empty, by simp [hm, Plan.empty]⟩
  · have hsifting := Plan.wellFlagged_of_sifting (p := residualPlan q P) rfl rfl
    exact ⟨hsifting.1, by simp [hm, hsifting.2]⟩
  · obtain ⟨hflagged, hne⟩ := wellFlagged_apply hh hp
    exact ⟨hflagged, by simp [hm, hne]⟩

/-- What a plan claims is told by its stages: it claims to fall short just where it has a stage, it
claims nothing just where every condition is the match-all clause, and in all other cases it claims
that the backend expresses the whole query. A list of stages that is there is never empty. -/
theorem complete_tracks_stages {journal : Journal} {q : Query} {p : Plan}
    (h : (registry.compile setting journal q).2 = .ok p) :
    (p.complete = some false ↔ p.stageList ≠ []) ∧
    (p.complete = some true ↔ p.stageList = [] ∧ ∃ c ∈ q.conjuncts, c.isMatchAll = false) ∧
    (p.complete = none ↔ ∀ c ∈ q.conjuncts, c.isMatchAll = true) ∧
    p.stages ≠ some [] := by
  obtain ⟨steps, hsteps, rfl⟩ := compile_ok h
  have hflagged : (Plan.empty.mergeAll (steps.map Step.plan)).WellFlagged := by
    apply Plan.wellFlagged_empty.mergeAll
    intro p hp
    obtain ⟨s, hs, rfl⟩ := List.mem_map.mp hp
    obtain ⟨c, -, hstep⟩ := exists_left_of_forall₂ hsteps hs
    exact (wellFlagged_step hstep).1
  have hnone : (Plan.empty.mergeAll (steps.map Step.plan)).complete = none ↔
      ∀ c ∈ q.conjuncts, c.isMatchAll = true := by
    rw [Plan.complete_mergeAll_eq_none]
    constructor
    · intro ⟨_, hall⟩ c hc
      obtain ⟨s, hs, hstep⟩ := exists_right_of_forall₂ hsteps hc
      exact (wellFlagged_step hstep).2.mp (hall s.plan (List.mem_map_of_mem hs))
    · intro hall
      refine ⟨rfl, ?_⟩
      intro p hp
      obtain ⟨s, hs, rfl⟩ := List.mem_map.mp hp
      obtain ⟨c, hc, hstep⟩ := exists_left_of_forall₂ hsteps hs
      exact (wellFlagged_step hstep).2.mpr (hall c hc)
  have hsome : (∃ c ∈ q.conjuncts, c.isMatchAll = false) ↔
      ¬∀ c ∈ q.conjuncts, c.isMatchAll = true := by
    simp
  have hlist := hflagged.stageList_ne_nil_iff
  refine ⟨hlist.symm, ?_, hnone, hflagged.stages_ne_nil⟩
  rw [hsome, ← hnone, ← Decidable.not_not (p := _ = []), ← ne_eq, hlist]
  generalize (Plan.empty.mergeAll (steps.map Step.plan)).complete = flag
  cases flag with
  | none => simp
  | some b => cases b <;> simp

end

/-- A star, a protocol that two filters of one kind send, and a choice that is left to a stage. -/
theorem complete_tracks_stages_of_star_and_choice :
    let q : Query := .and .matchAll (.and (.field "protocol" (.text "tcp") none)
      (.group (.or (.comparison "bytes" .gt (.int 5)) (.field "blocked" (.int 1) none))))
    let registry : Registry := [.protocol, .timeRange, .protocol]
    let setting : Setting := ⟨.flows, 1705329342, none⟩
    ∃ p, (registry.compile setting .empty q).2 = .ok p ∧ p.stageList.length = 1 ∧
      (p.complete = some false ↔ p.stageList ≠ []) ∧
      (p.complete = some true ↔ p.stageList = [] ∧ ∃ c ∈ q.conjuncts, c.isMatchAll = false) ∧
      (p.complete = none ↔ ∀ c ∈ q.conjuncts, c.isMatchAll = true) ∧
      p.stages ≠ some [] := by
  intro q registry setting
  have h : (registry.compile setting .empty q).2 = .ok _ := rfl
  exact ⟨_, h, rfl, complete_tracks_stages h⟩

end Registry

end NetQuery
