import Mathlib.Data.List.Perm.Basic
import NetQuery.Library
import NetQuery.Proofs.Plan.Merge

namespace NetQuery

namespace Plan

variable {plans plans' : List Plan} {key : String} {value : Json}

/-- The parts give no two values to one parameter. -/
def Agree (plans : List Plan) : Prop :=
  ∀ p ∈ plans, ∀ q ∈ plans, ∀ key value value', p.params.get? key = some value →
    q.params.get? key = some value' → value = value'

/-- Where the parts agree, the merge has each of their parameters. -/
theorem get?_mergeAll_iff (hagree : Agree plans) :
    (empty.mergeAll plans).params.get? key = some value ↔
      ∃ p ∈ plans, p.params.get? key = some value := by
  constructor
  · intro h
    rcases exists_of_get?_mergeAll h with hempty | hpart
    · cases hempty
    · exact hpart
  · intro ⟨p, hp, hget⟩
    obtain ⟨sent, hsent⟩ : ∃ sent, (empty.mergeAll plans).params.get? key = some sent :=
      isSome_get?_mergeAll hp hget
    rcases exists_of_get?_mergeAll hsent with hempty | ⟨q, hq, hget'⟩
    · cases hempty
    · rw [hsent, hagree p hp q hq key value sent hget hget']

theorem params_mergeAll_perm (hagree : Agree plans) (hperm : plans.Perm plans') :
    (empty.mergeAll plans).params = (empty.mergeAll plans').params := by
  have hagree' : Agree plans' := by
    intro p hp q hq
    exact hagree p (hperm.mem_iff.mpr hp) q (hperm.mem_iff.mpr hq)
  apply Params.ext_get?
  intro key
  apply Option.ext
  intro value
  rw [get?_mergeAll_iff hagree, get?_mergeAll_iff hagree']
  simp only [hperm.mem_iff]

theorem complete_mergeAll_eq (total : Plan) (plans : List Plan) :
    (total.mergeAll plans).complete =
      (plans.map complete).foldl (joinWith (· && ·)) total.complete := by
  induction plans generalizing total with
  | nil => rfl
  | cons p rest ih => exact ih (total.merge p)

theorem complete_mergeAll_perm (hperm : plans.Perm plans') :
    (empty.mergeAll plans).complete = (empty.mergeAll plans').complete := by
  rw [complete_mergeAll_eq, complete_mergeAll_eq]
  apply (hperm.map complete).foldl_eq'
  intro a _ b _ before
  rw [joinWith_assoc Bool.and_assoc, joinWith_comm Bool.and_comm a b, joinWith_assoc Bool.and_assoc]

theorem kept_mergeAll_perm (hperm : plans.Perm plans') (records : List Record) :
    ((empty.mergeAll plans).run records).1 = ((empty.mergeAll plans').run records).1 := by
  rw [run_kept, run_kept]
  apply List.filter_congr
  intro r _
  apply Bool.eq_iff_iff.mpr
  rw [accepts_mergeAll, accepts_mergeAll]
  simp only [hperm.mem_iff]

end Plan

namespace Registry

variable {registry : Registry} {setting : Setting} {count : Nat} {journal : Journal}

section

variable [Regex.Library]

/-- The filters that accept the condition ask the backend for the value under the key. -/
def Sets (registry : Registry) (setting : Setting) (c : Query) (key : String) (value : Json) :
    Prop :=
  ∃ plan, registry.apply setting c = .ok plan ∧ plan.params.get? key = some value

theorem sets_iff {c : Query} {plan : Plan} {key : String} {value : Json}
    (h : registry.apply setting c = .ok plan) :
    registry.Sets setting c key value ↔ (key, value) ∈ plan.params.entries := by
  rw [← Params.get?_eq_some_iff]
  constructor
  · intro ⟨plan', h', hget⟩
    rw [h] at h'
    cases h'
    exact hget
  · intro hget
    exact ⟨plan, h, hget⟩

theorem sets_of_step {c : Query} {s : Step} {key : String} {value : Json}
    (hs : registry.step setting count c = .ok s) (h : s.plan.params.get? key = some value) :
    registry.Sets setting c key value := by
  rcases step_cases hs with ⟨-, rfl⟩ | ⟨-, -, p, -, rfl⟩ | ⟨-, -, plan, hplan, rfl⟩
  · cases h
  · cases h
  · exact ⟨plan, hplan, h⟩

theorem compileFrom_of_steps {qs : List Query} {steps : List Step} (journal : Journal)
    (total : Plan) (h : StepsOf registry setting count qs steps) :
    (registry.compileFrom setting count journal total qs).2 =
      .ok (total.mergeAll (steps.map Step.plan)) := by
  induction h generalizing journal total with
  | nil => rfl
  | cons hs _ ih =>
    rw [compileFrom, hs]
    exact ih _ _

/-- The steps of conditions in another order are the steps in another order. -/
theorem StepsOf.perm {qs qs' : List Query} {steps : List Step}
    (h : StepsOf registry setting count qs steps) (hperm : qs.Perm qs') :
    ∃ steps', StepsOf registry setting count qs' steps' ∧ steps.Perm steps' := by
  obtain ⟨steps', hsteps', hperm'⟩ := List.perm_comp_forall₂ hperm.symm h
  exact ⟨steps', hsteps', hperm'.symm⟩

/-- The order in which a query demands its conditions, and how they are grouped, does not matter,
provided that no two of them ask for different values of one parameter: a query that demands the
same conditions is compiled too, its plan asks the backend for the same and claims the same, and it
keeps the same records. -/
theorem compile_of_perm_conjuncts {q q' : Query} {p : Plan} (journal' : Journal)
    (hperm : q.conjuncts.Perm q'.conjuncts)
    (hagree : ∀ c ∈ q.conjuncts, ∀ c' ∈ q.conjuncts, ∀ key value value',
      registry.Sets setting c key value → registry.Sets setting c' key value' → value = value')
    (h : (registry.compile setting journal q).2 = .ok p) :
    ∃ p', (registry.compile setting journal' q').2 = .ok p' ∧
      p'.params = p.params ∧ p'.complete = p.complete ∧
      ∀ records, (p'.run records).1 = (p.run records).1 := by
  obtain ⟨steps, hsteps, rfl⟩ := compile_ok h
  obtain ⟨steps', hsteps', hstepsPerm⟩ := hsteps.perm hperm
  have hplans := hstepsPerm.map Step.plan
  have hagreePlans : Plan.Agree (steps.map Step.plan) := by
    intro p hp p' hp' key value value' hvalue hvalue'
    obtain ⟨s, hs, rfl⟩ := List.mem_map.mp hp
    obtain ⟨s', hs', rfl⟩ := List.mem_map.mp hp'
    obtain ⟨c, hc, hstep⟩ := exists_left_of_forall₂ hsteps hs
    obtain ⟨c', hc', hstep'⟩ := exists_left_of_forall₂ hsteps hs'
    exact hagree c hc c' hc' key value value' (sets_of_step hstep hvalue)
      (sets_of_step hstep' hvalue')
  refine ⟨Plan.empty.mergeAll (steps'.map Step.plan), ?_, ?_, ?_, ?_⟩
  · rw [hperm.length_eq] at hsteps'
    exact compileFrom_of_steps journal' .empty hsteps'
  · exact (Plan.params_mergeAll_perm hagreePlans hplans).symm
  · exact (Plan.complete_mergeAll_perm hplans).symm
  · intro records
    exact (Plan.kept_mergeAll_perm hplans records).symm

end

/-- A protocol that is asked for twice, the start of a window and an address, in two orders and two
groupings. -/
theorem compile_of_perm_conjuncts_of_repeated_protocol :
    let protocol : Query := .field "protocol" (.text "tcp") none
    let protocol' : Query := .field "protocol" (.text "tcp") (some .eq)
    let since : Query := .comparison "timestamp" .ge (.text "2024-01-15")
    let source : Query := .field "source_ip" (.text "10.0.0.1") none
    let q : Query := .and protocol (.group (.and since (.and source protocol')))
    let q' : Query := .and (.and (.group (.and source protocol)) protocol') since
    let setting : Setting := ⟨.flows, 1705329342, none⟩
    q.conjuncts.Perm q'.conjuncts ∧
    (∀ c ∈ q.conjuncts, ∀ c' ∈ q.conjuncts, ∀ key value value',
      usual.Sets setting c key value → usual.Sets setting c' key value' → value = value') ∧
    ∃ p, (usual.compile setting .empty q).2 = .ok p ∧
    ∃ p', (usual.compile setting .empty q').2 = .ok p' ∧
      p'.params = p.params ∧ p'.complete = p.complete ∧
      ∀ records, (p'.run records).1 = (p.run records).1 := by
  intro protocol protocol' since source q q' setting
  have hperm : q.conjuncts.Perm q'.conjuncts := by decide
  have hvalue : ∀ c ∈ q.conjuncts, ∀ key value, usual.Sets setting c key value →
      value = if key = "protocol" then Json.str "tcp" else Json.int 1705276800 := by
    intro c hc key value hsets
    have hconjuncts : q.conjuncts = [protocol, since, source, protocol'] := rfl
    simp only [hconjuncts, List.mem_cons, List.not_mem_nil, or_false] at hc
    have hprotocol : (key, value) ∈ [("protocol", Json.str "tcp")] →
        value = if key = "protocol" then Json.str "tcp" else Json.int 1705276800 := by
      intro h
      obtain ⟨rfl, rfl⟩ : key = "protocol" ∧ value = Json.str "tcp" := by simpa using h
      rfl
    rcases hc with rfl | rfl | rfl | rfl
    · exact hprotocol ((sets_iff rfl).mp hsets)
    · have h : (key, value) ∈ [("begin", Json.int 1705276800)] := (sets_iff rfl).mp hsets
      obtain ⟨rfl, rfl⟩ : key = "begin" ∧ value = Json.int 1705276800 := by simpa using h
      rfl
    · cases (sets_iff rfl).mp hsets
    · exact hprotocol ((sets_iff rfl).mp hsets)
  have hagree : ∀ c ∈ q.conjuncts, ∀ c' ∈ q.conjuncts, ∀ key value value',
      usual.Sets setting c key value → usual.Sets setting c' key value' → value = value' := by
    intro c hc c' hc' key value value' h h'
    rw [hvalue c hc key value h, hvalue c' hc' key value' h']
  have h : (usual.compile setting .empty q).2 = .ok _ := rfl
  exact ⟨hperm, hagree, _, h, compile_of_perm_conjuncts .empty hperm hagree h⟩

end Registry

end NetQuery
