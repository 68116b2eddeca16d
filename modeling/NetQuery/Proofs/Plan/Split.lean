import NetQuery.Library
import NetQuery.Proofs.Plan.Steps

namespace NetQuery

/-- The query has a meaning, and it accepts the record. -/
def Query.Accepts [Regex.Library] (setting : Setting) (q : Query) (r : Record) : Prop :=
  ∃ p, q.predicate setting = .ok p ∧ p r = true

namespace Query

variable {setting : Setting} {q : Query}

theorem accepts_iff [Regex.Library] {p : Predicate} (h : q.predicate setting = .ok p) (r : Record) :
    q.Accepts setting r ↔ p r = true := by
  constructor
  · rintro ⟨p', h', hr⟩
    rw [h] at h'
    cases h'
    exact hr
  · exact fun hr => ⟨p, h, hr⟩

theorem flatMap_leaves (q : Query) : q.conjuncts.flatMap leaves = q.leaves := by
  induction q with
  | and left right ihl ihr => rw [conjuncts, List.flatMap_append, ihl, ihr, leaves]
  | group body ih => exact ih
  | _ => exact List.flatMap_singleton _ _

theorem leaves_subset_of_conjunct {c : Query} (h : c ∈ q.conjuncts) : c.leaves ⊆ q.leaves := by
  intro leaf hleaf
  rw [← q.flatMap_leaves]
  exact List.mem_flatMap.mpr ⟨c, h, hleaf⟩

/-- The match-all clause accepts every record. -/
theorem predicate_of_isMatchAll [Regex.Library] (h : q.isMatchAll = true) :
    q.predicate setting = .ok fun _ => true := by
  cases q with
  | field name value relation =>
    have hn : (name == matchAllName) = true := h
    simp [predicate, fieldPredicate, hn]
  | _ => cases h

/-- No entity declares the field name of the match-all clause. -/
theorem ne_matchAllName_of_kind? {entity : Entity} {name : String} {kind : FieldKind}
    (h : entity.kind? name = some kind) : (name == matchAllName) = false := by
  rw [beq_eq_false_iff_ne]
  rintro rfl
  cases entity <;> cases h

theorem predicate_on_address [Regex.Library] {name : String} {value : Literal}
    {relation : Option Relation}
    (hkind : setting.entity.kind? name = some .ip) (hrelation : relation ≠ some .approx) :
    (field name value relation).predicate setting = .ok fun r =>
      Predicate.onAddress name (.ofText value.toText) r != (relation == some .ne) := by
  have hstar := ne_matchAllName_of_kind? hkind
  simp only [predicate, fieldPredicate, hstar, hrelation, hkind]
  by_cases hne : relation = some .ne
  · simp [Predicate.signed, hne]
  · have hplain : (relation == some .ne) = false := by simpa using hne
    simp [Predicate.signed, hne, hplain]

/-- A query whose conditions all have a meaning has one, and accepts what all of them accept. -/
theorem predicate_of_conjuncts [Regex.Library]
    (h : ∀ c ∈ q.conjuncts, ∃ p, c.predicate setting = .ok p) :
    ∃ p, q.predicate setting = .ok p ∧
      ∀ r, p r = true ↔ ∀ c ∈ q.conjuncts, c.Accepts setting r := by
  induction q with
  | and left right ihl ihr =>
    obtain ⟨p, hp, hpr⟩ := ihl fun c hc => h c (List.mem_append_left _ hc)
    obtain ⟨p', hp', hpr'⟩ := ihr fun c hc => h c (List.mem_append_right _ hc)
    refine ⟨fun r => p r && p' r, ?_, fun r => ?_⟩
    · rw [predicate, hp, hp']
      rfl
    · rw [conjuncts, List.forall_mem_append, ← hpr, ← hpr', Bool.and_eq_true]
  | group body ih => exact ih h
  | _ =>
    obtain ⟨p, hp⟩ := h _ List.mem_cons_self
    exact ⟨p, hp, fun r => by simp [conjuncts, accepts_iff hp]⟩

end Query

namespace Filter

variable {setting : Setting} {q : Query} {p : Plan}

theorem kind?_of_isOfKind {entity : Entity} {name : String} {kind : FieldKind}
    (h : entity.isOfKind name kind = true) : entity.kind? name = some kind := by
  simpa [Entity.isOfKind] using h

theorem signed_of_isEquality {relation : Option Relation} (h : isEquality relation = true)
    (p : Predicate) : Predicate.signed relation p = p := by
  have : relation ≠ some .ne := by rintro rfl; cases h
  simp [Predicate.signed, this]

theorem ne_approx_of_isEquality {relation : Option Relation} (h : isEquality relation = true) :
    relation ≠ some .approx := by
  rintro rfl
  cases h

theorem isOfKind_of_accepts {entity : Entity} (ha : timeRange.accepts entity q = true) :
    entity.isOfKind (q.fieldName?.getD "") .timestamp = true := by
  cases q with
  | field name value relation =>
    have : isEquality relation = true ∧ entity.isOfKind name .timestamp = true := by
      simpa [accepts] using ha
    exact this.2
  | range | comparison => exact ha
  | _ => cases ha

theorem mapError_of_ok {α ε ε' : Type} {x : Except ε α} {a : α} (h : x = .ok a) (f : ε → ε') :
    x.mapError f = .ok a := by
  rw [h]
  rfl

/-- A clause on a time field means that the field lies in the window of the clause. -/
theorem predicate_of_window [Regex.Library] {w : Window}
    (ha : timeRange.accepts setting.entity q = true)
    (hm : q.isMatchAll = false) (hw : window setting q = .ok w) :
    q.predicate setting = .ok (Predicate.inWindow (q.fieldName?.getD "") w) := by
  cases q with
  | field name value relation =>
    obtain ⟨he, hk⟩ : isEquality relation = true ∧ setting.entity.isOfKind name .timestamp = true :=
      by simpa [accepts] using ha
    have hn : (name == Query.matchAllName) = false := hm
    cases ht : value.time setting.now with
    | error e => simp [window, Window.ofClause?, ht, Except.map] at hw
    | ok t =>
      simp only [window, Window.ofClause?, ht, Except.map, Except.ok.injEq] at hw
      subst hw
      simp [Query.predicate, Query.fieldPredicate, hn, ne_approx_of_isEquality he,
        kind?_of_isOfKind hk, mapError_of_ok ht, Except.map, signed_of_isEquality he,
        Query.fieldName?]
  | range name min max inclusive =>
    have hk := kind?_of_isOfKind ha
    cases ht : Window.ofRange setting min max inclusive with
    | error e => simp [window, Window.ofClause?, ht] at hw
    | ok w' =>
      simp only [window, Window.ofClause?, ht, Except.ok.injEq] at hw
      subst hw
      simp [Query.predicate, hk, mapError_of_ok ht, Except.map, Query.fieldName?]
  | comparison name op value =>
    have hk := kind?_of_isOfKind ha
    cases ht : value.time setting.now with
    | error e => simp [window, Window.ofClause?, ht, Except.map] at hw
    | ok t =>
      simp only [window, Window.ofClause?, ht, Except.map, Except.ok.injEq] at hw
      subst hw
      simp [Query.predicate, hk, mapError_of_ok ht, Except.map, Query.fieldName?]
  | _ => cases ha

/-- A clause on an address field means that the field's text matches the pattern, or does not. -/
theorem predicate_of_address [Regex.Library] (ha : address.accepts setting.entity q = true)
    (hp : address.plan setting q = .ok p) :
    ∃ name text negated, p = addressPlan name text negated ∧ q.predicate setting =
      .ok fun r => Predicate.onAddress name (.ofText text) r != negated := by
  cases q with
  | field name value relation =>
    obtain ⟨he, hk⟩ : relation ≠ some .approx ∧ setting.entity.isOfKind name .ip = true := by
      simpa [accepts] using ha
    cases hp
    exact ⟨name, value.toText, relation == some .ne, rfl,
      Query.predicate_on_address (kind?_of_isOfKind hk) he⟩
  | wildcard name pattern =>
    cases hp
    refine ⟨name, pattern, false, rfl, ?_⟩
    simp [Query.predicate, Query.wildcardPredicate, kind?_of_isOfKind ha]
  | _ => cases ha

/-- The fields whose values the backend takes as they are. -/
def passedFields : List String := ["severity", "protocol"]

/-- A passed field holds neither addresses nor times, so its equality is the plain one. -/
theorem kind?_of_passed {key : String} (hk : key ∈ passedFields) (entity : Entity) :
    entity.kind? key ≠ some .ip ∧ entity.kind? key ≠ some .timestamp := by
  simp only [passedFields, List.mem_cons, List.not_mem_nil, or_false] at hk
  rcases hk with rfl | rfl <;> cases entity <;> decide

theorem predicate_of_pass [Regex.Library] {filter : Filter} {key : String} (hk : key ∈ passedFields)
    (ha : isEqualityOn key setting.entity q = true) (hp : pass filter key q = .ok p) :
    ∃ value relation, q = .field key value relation ∧ p = passPlan key key value ∧
      q.predicate setting = .ok (Predicate.equalTo key value) := by
  cases q with
  | field name value relation =>
    obtain ⟨⟨he, rfl⟩, -⟩ : (isEquality relation = true ∧ name = key) ∧
        setting.entity.hasField key = true := by
      simpa [isEqualityOn] using ha
    obtain ⟨hi, ht⟩ := kind?_of_passed hk setting.entity
    have hn : (name == Query.matchAllName) = false := by
      simp only [passedFields, List.mem_cons, List.not_mem_nil, or_false] at hk
      rcases hk with rfl | rfl <;> decide
    simp only [pass, he, if_true, Except.ok.injEq] at hp
    refine ⟨value, relation, rfl, hp.symm, ?_⟩
    simp only [Query.predicate, Query.fieldPredicate, hn, ne_approx_of_isEquality he]
    cases hkind : setting.entity.kind? name with
    | none => simp [signed_of_isEquality he]
    | some kind =>
      rw [hkind] at hi ht
      cases kind <;> simp_all [signed_of_isEquality he]
  | _ => cases ha

/-- A window is sifted by one stage or asked of the backend. -/
theorem stages_windowPlan (entity : Entity) (name : String) (w : Window) :
    (windowPlan entity name w).stages = none ∨
      ∃ stage, (windowPlan entity name w).stages = some [⟨stage, Predicate.inWindow name w⟩] := by
  cases entity
  case flows | alarms => exact .inl (by simp [windowPlan, Plan.empty])
  all_goals exact .inr ⟨"time:" ++ name, rfl⟩

/-- The one stage of a filter's plan, where it has stages, is the predicate of the clause. -/
theorem plan_sifts [Regex.Library] {filter : Filter} (ha : filter.accepts setting.entity q = true)
    (hm : q.isMatchAll = false) (hp : filter.plan setting q = .ok p) :
    ∃ P, q.predicate setting = .ok P ∧
      (p.stages = none ∨ ∃ name, p.stages = some [⟨name, P⟩]) := by
  cases filter with
  | timeRange =>
    cases hw : window setting q with
    | error e => simp [plan, hw, Except.map] at hp
    | ok w =>
      simp only [plan, hw, Except.map, Except.ok.injEq] at hp
      subst hp
      exact ⟨_, predicate_of_window ha hm hw, stages_windowPlan ..⟩
  | address =>
    obtain ⟨name, text, negated, rfl, hq⟩ := predicate_of_address ha hp
    exact ⟨_, hq, .inr ⟨"ip:" ++ name, rfl⟩⟩
  | severity =>
    obtain ⟨value, relation, -, rfl, hq⟩ := predicate_of_pass (by decide) ha hp
    exact ⟨_, hq, .inl rfl⟩
  | protocol =>
    obtain ⟨value, relation, -, rfl, hq⟩ := predicate_of_pass (by decide) ha hp
    exact ⟨_, hq, .inl rfl⟩

end Filter

namespace Registry

variable {registry : Registry} {setting : Setting} {count : Nat}

section

variable [Regex.Library]

/-- The clause goes to the backend alone: filters accept it, and none of them sifts. -/
def Pushes (registry : Registry) (setting : Setting) (c : Query) : Prop :=
  c.isMatchAll = false ∧ registry.handlers setting.entity c ≠ [] ∧
    ∃ p, registry.apply setting c = .ok p ∧ p.stages = none

/-- What the filters make of a clause sifts by its predicate or does not sift at all. -/
theorem apply_sifts {q : Query} {p : Plan} (hm : q.isMatchAll = false)
    (hh : registry.handlers setting.entity q ≠ []) (hp : registry.apply setting q = .ok p) :
    ∃ P, q.predicate setting = .ok P ∧ (∀ s ∈ p.stageList, s.accepts = P) ∧
      (p.stages = none ∨ p.stageList ≠ []) := by
  obtain ⟨plans, hplans, rfl⟩ := apply_ok hp
  have hsift : ∀ fp ∈ plans, ∃ P, q.predicate setting = .ok P ∧
      (fp.stages = none ∨ ∃ name, fp.stages = some [⟨name, P⟩]) := by
    intro fp hm'
    obtain ⟨filter, hf, hfp⟩ := exists_left_of_forall₂ hplans hm'
    exact Filter.plan_sifts (List.mem_filter.mp hf).2 hm hfp
  obtain ⟨filter, hf⟩ := List.exists_mem_of_ne_nil _ hh
  obtain ⟨fp, hfp, -⟩ := exists_right_of_forall₂ hplans hf
  obtain ⟨P, hP, -⟩ := hsift fp hfp
  -- Every filter's plan sifts by the one predicate that the clause has.
  have hone : ∀ fp ∈ plans, fp.stages = none ∨ ∃ name, fp.stages = some [⟨name, P⟩] := by
    intro fp hm'
    obtain ⟨P', hP', hs⟩ := hsift fp hm'
    rw [hP] at hP'
    cases hP'
    exact hs
  refine ⟨P, hP, ?_, ?_⟩
  · intro s hs
    simp only [Plan.stageList_mergeAll, Plan.stageList_empty, List.nil_append,
      List.mem_flatMap] at hs
    obtain ⟨fp, hm', hs⟩ := hs
    rcases hone fp hm' with hn | ⟨name, hn⟩
    · simp [Plan.stageList, hn] at hs
    · simp only [Plan.stageList, hn, Option.getD_some, List.mem_singleton] at hs
      rw [hs]
  · by_cases hn : ∀ fp ∈ plans, fp.stages = none
    · exact .inl (Plan.stages_mergeAll_eq_none.mpr ⟨rfl, hn⟩)
    · push Not at hn
      obtain ⟨fp, hm', hn⟩ := hn
      obtain ⟨name, hs⟩ := (hone fp hm').resolve_left hn
      have : ⟨name, P⟩ ∈ fp.stageList := by simp [Plan.stageList, hs]
      refine .inr (List.ne_nil_of_mem (a := ⟨name, P⟩) ?_)
      simpa using ⟨fp, hm', this⟩

/-- A step gives the condition a meaning, and leaves its stages to sift by it unless it is handed to
the backend or matches every record. -/
theorem step_sifts {q : Query} {s : Step} (h : registry.step setting count q = .ok s) :
    ∃ P, q.predicate setting = .ok P ∧ (∀ stage ∈ s.plan.stageList, stage.accepts = P) ∧
      (s.plan.stageList ≠ [] ∨ q.isMatchAll = true ∨ registry.Pushes setting q) := by
  rcases step_cases h with ⟨hm, rfl⟩ | ⟨hm, hh, p, hp, rfl⟩ | ⟨hm, hh, p, hp, rfl⟩
  · exact ⟨_, Query.predicate_of_isMatchAll hm, by simp, .inr (.inl hm)⟩
  · have hstages : (residualPlan q p).stageList = [⟨_, p⟩] := rfl
    exact ⟨p, hp, by simp [hstages], .inl (by simp [hstages])⟩
  · obtain ⟨P, hP, hs, hn | hn⟩ := apply_sifts hm hh hp
    · exact ⟨P, hP, hs, .inr (.inr ⟨hm, hh, p, hp, hn⟩)⟩
    · exact ⟨P, hP, hs, .inl hn⟩

/-- Every condition of a query that has a plan has a meaning. -/
theorem exists_predicate {journal : Journal} {q : Query} {p : Plan}
    (h : (registry.compile setting journal q).2 = .ok p) :
    ∀ c ∈ q.conjuncts, ∃ P, c.predicate setting = .ok P := by
  intro c hc
  obtain ⟨steps, hsteps, -⟩ := compile_ok h
  obtain ⟨s, -, hs⟩ := exists_right_of_forall₂ hsteps hc
  obtain ⟨P, hP, -⟩ := step_sifts hs
  exact ⟨P, hP⟩

/-- The stages of a plan and the clauses handed to the backend split the meaning of the query: a
record is accepted just when it passes all stages and every clause that went to the backend alone
accepts it. -/
theorem accepts_iff_stages_and_pushed {journal : Journal} {q : Query} {p : Plan}
    (h : (registry.compile setting journal q).2 = .ok p) :
    ∃ P, q.predicate setting = .ok P ∧ ∀ r, P r = true ↔
      (∀ stage ∈ p.stageList, stage.accepts r = true) ∧
      ∀ c ∈ q.conjuncts, registry.Pushes setting c → c.Accepts setting r := by
  obtain ⟨P, hP, hiff⟩ := Query.predicate_of_conjuncts (exists_predicate h)
  obtain ⟨steps, hsteps, rfl⟩ := compile_ok h
  refine ⟨P, hP, fun r => (hiff r).trans ⟨fun hall => ⟨?_, fun c hc _ => hall c hc⟩, ?_⟩⟩
  · -- A stage belongs to the step of a condition, whose predicate it is.
    intro stage hstage
    simp only [Plan.stageList_mergeAll, Plan.stageList_empty, List.nil_append,
      List.mem_flatMap, List.mem_map] at hstage
    obtain ⟨_, ⟨s, hs, rfl⟩, hstage⟩ := hstage
    obtain ⟨c, hc, hstep⟩ := exists_left_of_forall₂ hsteps hs
    obtain ⟨Pc, hPc, hsift, -⟩ := step_sifts hstep
    rw [hsift stage hstage]
    exact (Query.accepts_iff hPc r).mp (hall c hc)
  · rintro ⟨hstages, hpushed⟩ c hc
    obtain ⟨s, hs, hstep⟩ := exists_right_of_forall₂ hsteps hc
    obtain ⟨Pc, hPc, hsift, hne | hm | hpush⟩ := step_sifts hstep
    · obtain ⟨stage, hstage⟩ := List.exists_mem_of_ne_nil _ hne
      refine (Query.accepts_iff hPc r).mpr ?_
      rw [← hsift stage hstage]
      refine hstages stage ?_
      simpa using ⟨s, hs, hstage⟩
    · exact ⟨_, Query.predicate_of_isMatchAll hm, rfl⟩
    · exact hpushed c hc hpush

end

/-- A severity that goes to the backend, beside a choice of types and an excluded address that are
left to stages. -/
theorem accepts_iff_stages_and_pushed_of_sent_severity :
    let q : Query := .and (.field "severity" (.text "high") none)
      (.and (.group (.or (.field "type" (.int 1) none) (.field "type" (.int 2) none)))
        (.field "source_ip" (.text "10.0.0.1") (some .ne)))
    let setting : Setting := ⟨.alarms, 1705329342, none⟩
    ∃ p, (usual.compile setting .empty q).2 = .ok p ∧ p.stageList.length = 2 ∧
      ∃ P, q.predicate setting = .ok P ∧ ∀ r, P r = true ↔
        (∀ stage ∈ p.stageList, stage.accepts r = true) ∧
        ∀ c ∈ q.conjuncts, usual.Pushes setting c → c.Accepts setting r := by
  intro q setting
  have h : (usual.compile setting .empty q).2 = .ok _ := rfl
  exact ⟨_, h, rfl, accepts_iff_stages_and_pushed h⟩

end Registry

end NetQuery
