import NetQuery.Proofs.Plan.Meaning
import NetQuery.Proofs.Plan.Split

namespace NetQuery

namespace Record

def retag (entity : Entity) (r : Record) : Record :=
  { r with entity }

@[simp] theorem data_retag (entity : Entity) (r : Record) : (r.retag entity).data = r.data := rfl

/-- Where an entity declares a field in the same place, a record of it reads the same. -/
theorem get?_retag {entity : Entity} {r : Record} {name : String}
    (h : (r.entity.field? name).map (·.path) = (entity.field? name).map (·.path)) :
    (r.retag entity).get? name = r.get? name := by
  unfold get? retag
  cases h₁ : r.entity.field? name <;> cases h₂ : entity.field? name <;> simp_all

end Record

def Query.fieldNames (q : Query) : List String :=
  q.leaves.filterMap fieldName?

/-- The two records read the same in every field that the query names. -/
def Query.ReadsAlike (q : Query) (r r' : Record) : Prop :=
  ∀ name ∈ q.fieldNames, r.get? name = r'.get? name

namespace Query

variable {setting : Setting} {q : Query} {p : Predicate} {r r' : Record}

theorem forall_fieldNames_append {left right : Query} (hq : q.leaves = left.leaves ++ right.leaves)
    {C : String → Prop} : (∀ name ∈ q.fieldNames, C name) ↔
      (∀ name ∈ left.fieldNames, C name) ∧ ∀ name ∈ right.fieldNames, C name := by
  unfold fieldNames
  rw [hq, List.filterMap_append, List.forall_mem_append]

theorem readsAlike_append {left right : Query} (hq : q.leaves = left.leaves ++ right.leaves) :
    q.ReadsAlike r r' ↔ left.ReadsAlike r r' ∧ right.ReadsAlike r r' :=
  forall_fieldNames_append hq

/-- A query tells no records apart that read the same in the fields it names. -/
theorem predicate_congr [Regex.Library] (h : q.predicate setting = .ok p) (hr : q.ReadsAlike r r') :
    p r = p r' := by
  induction q generalizing p with
  | field name | wildcard name | range name | comparison name =>
    exact (reads_of_clause rfl h).congr (hr name List.mem_cons_self)
  | group body ih => exact ih h hr
  | and left right ihl ihr =>
    obtain ⟨hl, hr⟩ := (readsAlike_append rfl).mp hr
    obtain ⟨pl, pr, hpl, hpr, rfl⟩ := predicate_of_and h
    simp only [ihl hpl hl, ihr hpr hr]
  | or left right ihl ihr =>
    obtain ⟨hl, hr⟩ := (readsAlike_append rfl).mp hr
    obtain ⟨pl, pr, hpl, hpr, rfl⟩ := predicate_of_or h
    simp only [ihl hpl hl, ihr hpr hr]
  | not operand ih =>
    obtain ⟨po, hpo, rfl⟩ := predicate_of_not h
    simp only [ih hpo hr]

theorem ReadsAlike.of_mem_conjuncts (h : q.ReadsAlike r r') {c : Query} (hc : c ∈ q.conjuncts) :
    c.ReadsAlike r r' := by
  induction q with
  | and left right ihl ihr =>
    obtain ⟨hl, hr⟩ := (readsAlike_append rfl).mp h
    rcases List.mem_append.mp hc with hc | hc
    · exact ihl hl hc
    · exact ihr hr hc
  | group body ih => exact ih h hc
  | _ => rwa [List.mem_singleton.mp hc]

end Query

/-- Stages that tell no record from its image keep the images of the records they keep, and report
the same numbers. -/
theorem runStages_map {f : Record → Record} {stages : List Stage} {records : List Record}
    (h : ∀ r ∈ records, ∀ s ∈ stages, s.accepts (f r) = s.accepts r) :
    runStages stages (records.map f) =
      ((runStages stages records).1.map f, (runStages stages records).2) := by
  induction stages generalizing records with
  | nil => rfl
  | cons s rest ih =>
    have hkept : (records.map f).filter s.accepts = (records.filter s.accepts).map f := by
      rw [List.filter_map]
      congr 1
      exact List.filter_congr fun r hr => h r hr s List.mem_cons_self
    have hrest := ih fun r (hr : r ∈ records.filter s.accepts) t ht =>
      h r (List.mem_of_mem_filter hr) t (List.mem_cons_of_mem _ ht)
    simp only [runStages, hkept, hrest, List.length_map]

namespace Registry

variable {registry : Registry} {setting : Setting}

theorem accepts_congr_of_stage [Regex.Library] {journal : Journal} {q : Query} {p : Plan}
    (h : (registry.compile setting journal q).2 = .ok p) {s : Stage} (hs : s ∈ p.stageList)
    {r r' : Record} (hr : q.ReadsAlike r r') : s.accepts r = s.accepts r' := by
  obtain ⟨steps, hsteps, rfl⟩ := compile_ok h
  simp only [Plan.stageList_mergeAll, Plan.stageList_empty, List.nil_append, List.mem_flatMap,
    List.mem_map] at hs
  obtain ⟨_, ⟨step, hstep, rfl⟩, hs⟩ := hs
  obtain ⟨c, hc, hplanned⟩ := exists_left_of_forall₂ hsteps hstep
  obtain ⟨P, hP, hsift, -⟩ := step_sifts hplanned
  rw [hsift s hs]
  exact Query.predicate_congr hP (hr.of_mem_conjuncts hc)

/-- Records that read the same under another entity, in the fields of the query, are sifted alike
under it. -/
theorem run_retag [Regex.Library] {journal : Journal} {q : Query} {p : Plan}
    (h : (registry.compile setting journal q).2 = .ok p) {entity : Entity} {records : List Record}
    (hr : ∀ r ∈ records, q.ReadsAlike r (r.retag entity)) :
    p.run (records.map (Record.retag entity)) =
      ((p.run records).1.map (Record.retag entity), (p.run records).2) :=
  runStages_map fun r hm _ hs => (accepts_congr_of_stage h hs (hr r hm)).symm

end Registry

end NetQuery
