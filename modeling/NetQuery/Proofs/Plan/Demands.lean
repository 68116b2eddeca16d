import NetQuery.Library
import NetQuery.Proofs.Plan.Merge
import NetQuery.Proofs.Plan.Split

namespace NetQuery

/-- The second that a flow or an alarm tells. -/
def Record.second? (r : Record) : Option Int :=
  (r.get? "ts").bind Epoch.ofRecord?

/-- What a clause handed to the backend asks of a record. -/
inductive Demand where
  | equal (field : String) (value : Literal)
  /-- The record tells its time at all. -/
  | timed
  | notBefore (second : Int)
  | notAfter (second : Int)

def Demand.Holds (r : Record) : Demand → Prop
  | equal field value => Predicate.equalTo field value r = true
  | timed => ∃ t, r.second? = some t
  | notBefore s => ∃ t, r.second? = some t ∧ s ≤ t
  | notAfter s => ∃ t, r.second? = some t ∧ t ≤ s

/-- A window demands a time, and its ends where it has them. -/
def Window.demands (w : Window) : List Demand :=
  .timed :: (w.first.map Demand.notBefore).toList ++ (w.last.map Demand.notAfter).toList

def Query.demands (setting : Setting) (c : Query) : List Demand :=
  let ofWindow := match Window.ofClause? setting c with
    | some (.ok w) => w.demands
    | _ => []
  match c with
  | field name value _ =>
    if name = matchAllName then []
    else if name ∈ Filter.passedFields then [.equal name value]
    else ofWindow
  | _ => ofWindow

namespace Params

/-- The request is for records from this second on. -/
def Begins (p : Params) (s : Int) : Prop :=
  p.get? "begin" = some (.int s) ∨
    ∃ text, p.get? "start_time" = some (.str text) ∧ Instant.iso? s = some text

/-- The request is for records up to this second. -/
def Ends (p : Params) (s : Int) : Prop :=
  p.get? "end" = some (.int s) ∨
    ∃ text, p.get? "end_time" = some (.str text) ∧ Instant.iso? s = some text

def literal? : Json → Option Literal
  | .int n => some (.int n)
  | .float x => some (.float x)
  | .str s => some (.text s)
  | _ => none

/-- The request is for this record: passed values equal those of its fields, and its time lies
within the ends. -/
structure Admits (p : Params) (r : Record) : Prop where
  passed : ∀ field ∈ Filter.passedFields, ∀ value, p.get? field = some value →
    ∃ literal, literal? value = some literal ∧ Predicate.equalTo field literal r = true
  begins : ∀ s, p.Begins s → ∃ t, r.second? = some t ∧ s ≤ t
  ends : ∀ s, p.Ends s → ∃ t, r.second? = some t ∧ t ≤ s

end Params

/-- The parameters say what is demanded, or more. -/
def Demand.KeptBy (p : Params) : Demand → Prop
  | equal field value => field ∈ Filter.passedFields ∧ p.get? field = some value.toJson
  | timed => ∃ s, p.Begins s ∨ p.Ends s
  | notBefore s => ∃ s', p.Begins s' ∧ s ≤ s'
  | notAfter s => ∃ s', p.Ends s' ∧ s' ≤ s

def Demand.parameter? (entity : Entity) : Demand → Option (String × Json)
  | equal field value => if field ∈ Filter.passedFields then some (field, value.toJson) else none
  | timed => none
  | notBefore s =>
    match entity with
    | .alarms => (Instant.iso? s).map fun text => ("start_time", .str text)
    | .flows => some ("begin", .int s)
    | _ => none
  | notAfter s =>
    match entity with
    | .alarms => (Instant.iso? s).map fun text => ("end_time", .str text)
    | .flows => some ("end", .int s)
    | _ => none

/-- Some demand of the query has set the parameter of `d` to a value that is not the one of `d`. -/
def Query.Overrides (setting : Setting) (q : Query) (p : Params) (d : Demand) : Prop :=
  ∃ key value sent, d.parameter? setting.entity = some (key, value) ∧
    p.get? key = some sent ∧ sent ≠ value ∧
    ∃ c ∈ q.conjuncts, ∃ d' ∈ c.demands setting, d'.parameter? setting.entity = some (key, sent)

theorem Demand.keptBy_of_get? {p : Params} {entity : Entity} {d : Demand} {key : String}
    {value : Json} (hd : d.parameter? entity = some (key, value))
    (hp : p.get? key = some value) : d.KeptBy p := by
  cases d with
  | equal field literal =>
    simp only [parameter?] at hd
    split at hd
    · next hf =>
      cases hd
      exact ⟨hf, hp⟩
    · cases hd
  | timed => cases hd
  | notBefore s =>
    refine ⟨s, ?_, Int.le_refl s⟩
    cases entity <;> simp only [parameter?, Option.map_eq_some_iff, reduceCtorEq] at hd
    · cases hd
      exact .inl hp
    · obtain ⟨text, ht, he⟩ := hd
      cases he
      exact .inr ⟨text, hp, ht⟩
  | notAfter s =>
    refine ⟨s, ?_, Int.le_refl s⟩
    cases entity <;> simp only [parameter?, Option.map_eq_some_iff, reduceCtorEq] at hd
    · cases hd
      exact .inl hp
    · obtain ⟨text, ht, he⟩ := hd
      cases he
      exact .inr ⟨text, hp, ht⟩

theorem Params.literal?_toJson {value literal : Literal}
    (h : literal? value.toJson = some literal) : literal = value := by
  cases value with
  | int n => cases h; rfl
  | text s => cases h; rfl
  | float x =>
    by_cases hx : x.isFinite
    · simp only [Literal.toJson, hx, if_true] at h
      cases h
      rfl
    · simp [Literal.toJson, hx, literal?] at h

/-- A record that the request is for meets every demand that the parameters kept. -/
theorem Demand.holds_of_keptBy {p : Params} {r : Record} {d : Demand} (hk : d.KeptBy p)
    (ha : p.Admits r) : d.Holds r := by
  cases d with
  | equal field value =>
    obtain ⟨literal, hl, he⟩ := ha.passed field hk.1 _ hk.2
    rwa [Params.literal?_toJson hl] at he
  | timed =>
    obtain ⟨s, hs | hs⟩ := hk
    · obtain ⟨t, ht, -⟩ := ha.begins s hs
      exact ⟨t, ht⟩
    · obtain ⟨t, ht, -⟩ := ha.ends s hs
      exact ⟨t, ht⟩
  | notBefore s =>
    obtain ⟨s', hs, hle⟩ := hk
    obtain ⟨t, ht, hst⟩ := ha.begins s' hs
    exact ⟨t, ht, Int.le_trans hle hst⟩
  | notAfter s =>
    obtain ⟨s', hs, hle⟩ := hk
    obtain ⟨t, ht, hst⟩ := ha.ends s' hs
    exact ⟨t, ht, Int.le_trans hst hle⟩

/-- Flows and alarms keep all their times in one place. -/
theorem Record.get?_of_time {r : Record} {name : String}
    (he : r.entity = .flows ∨ r.entity = .alarms)
    (hk : r.entity.isOfKind name .timestamp = true) : r.get? name = r.get? "ts" := by
  have hpath : ∀ spec ∈ r.entity.fields, spec.kind = .timestamp → spec.path = ["ts"] := by
    rcases he with he | he <;> rw [he] <;> decide
  obtain ⟨spec, hspec, hkind⟩ : ∃ spec, r.entity.field? name = some spec ∧
      spec.kind = .timestamp := by
    simpa [Entity.isOfKind, Entity.kind?] using hk
  obtain ⟨ts, hts, htspath⟩ : ∃ ts, r.entity.field? "ts" = some ts ∧ ts.path = ["ts"] := by
    rcases he with he | he <;> rw [he] <;> exact ⟨_, rfl, rfl⟩
  have hp := hpath spec (List.mem_of_find?_eq_some hspec) hkind
  simp [Record.get?, hspec, hts, hp, htspath]

/-- A window is the conjunction of what it demands. -/
theorem Window.inWindow_iff_demands {r : Record} {name : String} (w : Window)
    (he : r.entity = .flows ∨ r.entity = .alarms)
    (hk : r.entity.isOfKind name .timestamp = true) :
    Predicate.inWindow name w r = true ↔ ∀ d ∈ w.demands, d.Holds r := by
  have ht : Predicate.inWindow name w r = r.second?.any w.contains := by
    rw [Predicate.inWindow, Record.get?_of_time he hk, Record.second?]
  rw [ht]
  obtain ⟨first, last⟩ := w
  cases hs : r.second? with
  | none => simp [demands, Demand.Holds, hs]
  | some t =>
    cases first <;> cases last <;> simp [demands, Demand.Holds, hs, contains]

namespace Filter

variable {setting : Setting} {c : Query} {p : Plan}

theorem ne_passed_of_isOfKind {entity : Entity} {name : String}
    (hk : entity.isOfKind name .timestamp = true) : name ∉ passedFields := fun hm =>
  (kind?_of_passed hm entity).2 (kind?_of_isOfKind hk)

theorem demands_of_window {w : Window} (ha : timeRange.accepts setting.entity c = true)
    (hm : c.isMatchAll = false) (hw : window setting c = .ok w) :
    c.demands setting = w.demands := by
  have hof : Window.ofClause? setting c = some (.ok w) := by
    unfold window at hw
    split at hw <;> cases hw
    assumption
  cases c with
  | field name value relation =>
    have hn : name ≠ Query.matchAllName := by simpa [Query.isMatchAll] using hm
    have hp : name ∉ passedFields := ne_passed_of_isOfKind (isOfKind_of_accepts ha)
    simp [Query.demands, hof, hn, hp]
  | _ => simp [Query.demands, hof]

/-- The equality that a passed clause demands. -/
theorem demands_of_pass {key : String} (hk : key ∈ passedFields) (value : Literal)
    (relation : Option Relation) :
    (Query.field key value relation).demands setting = [.equal key value] := by
  have hn : key ≠ Query.matchAllName := by
    rintro rfl
    revert hk
    decide
  simp [Query.demands, hn, hk]

/-- The one parameter of a passed value says the demand of the clause. -/
theorem get?_passPlan {key k : String} {literal : Literal} {relation : Option Relation}
    {value : Json} (hk : key ∈ passedFields) :
    (passPlan key key literal).params.get? k = some value ↔
      ∃ d ∈ (Query.field key literal relation).demands setting,
        d.parameter? setting.entity = some (k, value) := by
  have hp : (passPlan key key literal).params = Params.empty.insert key literal.toJson := rfl
  rw [hp, Params.get?_insert, demands_of_pass hk]
  by_cases hkey : key = k
  · subst hkey
    simp [Demand.parameter?, hk]
  · simp [Demand.parameter?, hk, hkey]

theorem complete_windowPlan {entity : Entity} {name : String} {w : Window}
    (h : (windowPlan entity name w).complete ≠ some false) :
    entity = .flows ∨ entity = .alarms := by
  cases entity with
  | flows => exact .inl rfl
  | alarms => exact .inr rfl
  | _ => exact absurd rfl h

/-- The parameters of a window are those that say its demands. -/
theorem get?_windowPlan {entity : Entity} {name key : String} {w : Window} {value : Json}
    (he : entity = .flows ∨ entity = .alarms) :
    (windowPlan entity name w).params.get? key = some value ↔
      ∃ d ∈ w.demands, d.parameter? entity = some (key, value) := by
  obtain ⟨first, last⟩ := w
  rcases he with rfl | rfl
  · by_cases hkey : "end" = key
    · subst hkey
      cases first <;> cases last <;>
        simp [windowPlan, get?_setOptional, Window.demands, Demand.parameter?, Plan.empty]
    · cases first <;> cases last <;>
        simp [windowPlan, get?_setOptional, Window.demands, Demand.parameter?, Plan.empty, hkey]
  · by_cases hkey : "end_time" = key
    · subst hkey
      cases first <;> cases last <;>
        simp [windowPlan, get?_setOptional, Window.demands, Demand.parameter?, Plan.empty]
    · cases first <;> cases last <;>
        simp [windowPlan, get?_setOptional, Window.demands, Demand.parameter?, Plan.empty, hkey,
          and_left_comm]

/-- Where a filter does not claim to fall short, its parameters are those that say the demands of
the clause. -/
theorem get?_iff_demands [Regex.Library] {filter : Filter} {key : String} {value : Json}
    (ha : filter.accepts setting.entity c = true) (hm : c.isMatchAll = false)
    (hp : filter.plan setting c = .ok p) (hc : p.complete ≠ some false) :
    p.params.get? key = some value ↔
      ∃ d ∈ c.demands setting, d.parameter? setting.entity = some (key, value) := by
  cases filter with
  | timeRange =>
    cases hw : window setting c with
    | error e => simp [plan, hw, Except.map] at hp
    | ok w =>
      simp only [plan, hw, Except.map, Except.ok.injEq] at hp
      subst hp
      rw [demands_of_window ha hm hw]
      exact get?_windowPlan (complete_windowPlan hc)
  | address =>
    obtain ⟨name, text, negated, rfl, -⟩ := predicate_of_address ha hp
    exact absurd rfl hc
  | severity =>
    obtain ⟨literal, relation, rfl, rfl, -⟩ := predicate_of_pass (by decide) ha hp
    exact get?_passPlan (by decide)
  | protocol =>
    obtain ⟨literal, relation, rfl, rfl, -⟩ := predicate_of_pass (by decide) ha hp
    exact get?_passPlan (by decide)

/-- Where a filter does not claim to fall short, its clause accepts just the records that meet the
demands of the clause. -/
theorem predicate_iff_demands [Regex.Library] {filter : Filter}
    (ha : filter.accepts setting.entity c = true)
    (hm : c.isMatchAll = false) (hp : filter.plan setting c = .ok p)
    (hc : p.complete ≠ some false) {r : Record} (hr : r.entity = setting.entity) :
    c.Accepts setting r ↔ ∀ d ∈ c.demands setting, d.Holds r := by
  cases filter with
  | timeRange =>
    cases hw : window setting c with
    | error e => simp [plan, hw, Except.map] at hp
    | ok w =>
      simp only [plan, hw, Except.map, Except.ok.injEq] at hp
      subst hp
      have he := complete_windowPlan hc
      rw [Query.accepts_iff (predicate_of_window ha hm hw), demands_of_window ha hm hw]
      rw [← hr] at he ha
      exact w.inWindow_iff_demands he (isOfKind_of_accepts ha)
  | address =>
    obtain ⟨name, text, negated, rfl, -⟩ := predicate_of_address ha hp
    exact absurd rfl hc
  | severity =>
    obtain ⟨value, relation, rfl, -, hq⟩ := predicate_of_pass (by decide) ha hp
    rw [Query.accepts_iff hq, demands_of_pass (by decide)]
    simp [Demand.Holds]
  | protocol =>
    obtain ⟨value, relation, rfl, -, hq⟩ := predicate_of_pass (by decide) ha hp
    rw [Query.accepts_iff hq, demands_of_pass (by decide)]
    simp [Demand.Holds]

end Filter

namespace Registry

variable {registry : Registry} {setting : Setting}

section

variable [Regex.Library]

/-- What a step that does not claim to fall short makes of a condition: the condition accepts the
records that meet its demands, every parameter says one of them, and each demand that has a
parameter sets it. -/
theorem step_demands {count : Nat} {c : Query} {s : Step}
    (h : registry.step setting count c = .ok s) (hc : s.plan.complete ≠ some false) :
    (∀ r, r.entity = setting.entity →
      (c.Accepts setting r ↔ ∀ d ∈ c.demands setting, d.Holds r)) ∧
    (∀ key value, s.plan.params.get? key = some value →
      ∃ d ∈ c.demands setting, d.parameter? setting.entity = some (key, value)) ∧
    (∀ d ∈ c.demands setting, ∀ key value, d.parameter? setting.entity = some (key, value) →
      ∃ sent, s.plan.params.get? key = some sent) := by
  rcases step_cases h with ⟨hm, rfl⟩ | ⟨-, -, P, -, rfl⟩ | ⟨hm, hh, plan, hp, rfl⟩
  · cases c with
    | field name value relation =>
      have hn : name = Query.matchAllName := by simpa [Query.isMatchAll] using hm
      have hd : (Query.field name value relation).demands setting = [] := by
        simp [Query.demands, hn]
      refine ⟨fun r _ => ?_, fun key value hget => ?_, by simp [hd]⟩
      · rw [Query.accepts_iff (Query.predicate_of_isMatchAll hm)]
        simp [hd]
      · cases hget
    | _ => cases hm
  · exact absurd rfl hc
  · obtain ⟨plans, hplans, rfl⟩ := apply_ok hp
    have hfilters := (Plan.complete_mergeAll hc).2
    obtain ⟨filter, hf⟩ := List.exists_mem_of_ne_nil _ hh
    obtain ⟨fp, hfp, hplan⟩ := exists_right_of_forall₂ hplans hf
    have haccepts := (List.mem_filter.mp hf).2
    refine ⟨fun r hr => Filter.predicate_iff_demands haccepts hm hplan (hfilters fp hfp) hr, ?_, ?_⟩
    · intro key value hget
      obtain hget | ⟨fp', hfp', hget⟩ := Plan.exists_of_get?_mergeAll hget
      · cases hget
      · obtain ⟨filter', hf', hplan'⟩ := exists_left_of_forall₂ hplans hfp'
        exact (Filter.get?_iff_demands (List.mem_filter.mp hf').2 hm hplan'
          (hfilters fp' hfp')).mp hget
    · intro d hd key value hkey
      have hget : fp.params.get? key = some value :=
        (Filter.get?_iff_demands haccepts hm hplan (hfilters fp hfp)).mpr ⟨d, hd, hkey⟩
      exact Plan.isSome_get?_mergeAll hfp hget

variable {journal : Journal} {q : Query} {p : Plan}

/-- In a plan that claims to be complete each condition accepts the records that meet its
demands. -/
theorem accepts_iff_demands (h : (registry.compile setting journal q).2 = .ok p)
    (hc : p.complete = some true) {c : Query} (hq : c ∈ q.conjuncts) {r : Record}
    (hr : r.entity = setting.entity) :
    c.Accepts setting r ↔ ∀ d ∈ c.demands setting, d.Holds r := by
  obtain ⟨steps, hsteps, rfl⟩ := compile_ok h
  obtain ⟨s, hs, hstep⟩ := exists_right_of_forall₂ hsteps hq
  have hall := (Plan.complete_mergeAll (by rw [hc]; decide)).2
  exact (step_demands hstep (hall s.plan (List.mem_map_of_mem hs))).1 r hr

/-- A demand that the parameters do not say has none of its own, or its parameter was set to
something else by another demand of the query. -/
theorem overrides_of_lost (h : (registry.compile setting journal q).2 = .ok p)
    (hc : p.complete = some true) {c : Query} (hq : c ∈ q.conjuncts) {d : Demand}
    (hd : d ∈ c.demands setting) (hlost : ¬ d.KeptBy p.params) :
    d.parameter? setting.entity = none ∨ q.Overrides setting p.params d := by
  cases hparam : d.parameter? setting.entity with
  | none => exact .inl rfl
  | some pair =>
    obtain ⟨key, value⟩ := pair
    obtain ⟨steps, hsteps, rfl⟩ := compile_ok h
    have hall := (Plan.complete_mergeAll (by rw [hc]; decide)).2
    obtain ⟨s, hs, hstep⟩ := exists_right_of_forall₂ hsteps hq
    have hmem := List.mem_map_of_mem (f := Step.plan) hs
    obtain ⟨own, hown⟩ := (step_demands hstep (hall s.plan hmem)).2.2 d hd key value hparam
    obtain ⟨sent, hsent⟩ : ∃ sent,
        (Plan.empty.mergeAll (steps.map Step.plan)).params.get? key = some sent :=
      Plan.isSome_get?_mergeAll hmem hown
    obtain hnone | ⟨sp, hsp, hget⟩ := Plan.exists_of_get?_mergeAll hsent
    · cases hnone
    obtain ⟨s', hs', rfl⟩ := List.mem_map.mp hsp
    obtain ⟨c', hc', hstep'⟩ := exists_left_of_forall₂ hsteps hs'
    obtain ⟨d', hd', hparam'⟩ := (step_demands hstep' (hall _ hsp)).2.1 key sent hget
    have hne : sent ≠ value := fun he => hlost (Demand.keptBy_of_get? hparam (he ▸ hsent))
    exact .inr ⟨key, value, sent, hparam, hsent, hne, c', hc', d', hd', hparam'⟩

/-- A plan that claims that the backend expresses the whole query is right just when the records
that its parameters ask for meet the demands that the parameters do not say. These are the demands
whose parameter another clause has set to something else, and those that have no parameter: an open
window, and an end of a window for alarms that has no date. -/
theorem complete_iff_lost_demands_follow (h : (registry.compile setting journal q).2 = .ok p)
    (hc : p.complete = some true) :
    ∃ P, q.predicate setting = .ok P ∧
      ((∀ r, r.entity = setting.entity → p.params.Admits r → P r = true) ↔
        ∀ c ∈ q.conjuncts, ∀ d ∈ c.demands setting, ¬ d.KeptBy p.params →
          ∀ r, r.entity = setting.entity → p.params.Admits r → d.Holds r) ∧
      ∀ c ∈ q.conjuncts, ∀ d ∈ c.demands setting, ¬ d.KeptBy p.params →
        d.parameter? setting.entity = none ∨ q.Overrides setting p.params d := by
  obtain ⟨P, hP, hiff⟩ := Query.predicate_of_conjuncts (exists_predicate h)
  refine ⟨P, hP, ⟨?_, ?_⟩, fun c hq d hd hlost => overrides_of_lost h hc hq hd hlost⟩
  · intro hall c hq d hd _ r hr ha
    have hcr := (hiff r).mp (hall r hr ha) c hq
    exact (accepts_iff_demands h hc hq hr).mp hcr d hd
  · intro hlost r hr ha
    refine (hiff r).mpr fun c hq => (accepts_iff_demands h hc hq hr).mpr fun d hd => ?_
    by_cases hk : d.KeptBy p.params
    · exact Demand.holds_of_keptBy hk ha
    · exact hlost c hq d hd hk r hr ha

end

/-- A protocol and the start of a window, both of which flows are asked for by. -/
theorem complete_iff_lost_demands_follow_of_protocol_and_start :
    let q : Query := .and (.field "protocol" (.text "tcp") none)
      (.comparison "timestamp" .ge (.text "2024-01-15"))
    let setting : Setting := ⟨.flows, 1705329342, none⟩
    ∃ p, (usual.compile setting .empty q).2 = .ok p ∧ p.complete = some true ∧
      ∃ P, q.predicate setting = .ok P ∧
      ((∀ r, r.entity = setting.entity → p.params.Admits r → P r = true) ↔
        ∀ c ∈ q.conjuncts, ∀ d ∈ c.demands setting, ¬ d.KeptBy p.params →
          ∀ r, r.entity = setting.entity → p.params.Admits r → d.Holds r) ∧
      ∀ c ∈ q.conjuncts, ∀ d ∈ c.demands setting, ¬ d.KeptBy p.params →
        d.parameter? setting.entity = none ∨ q.Overrides setting p.params d := by
  intro q setting
  have h : (usual.compile setting .empty q).2 = .ok _ := rfl
  exact ⟨_, h, rfl, complete_iff_lost_demands_follow h rfl⟩

/-- The later of two severities is the only one sent, and the plan still claims to be complete. -/
theorem complete_of_two_severities :
    let q : Query := .and (.field "severity" (.text "high") none)
      (.field "severity" (.text "low") none)
    let setting : Setting := ⟨.alarms, 1705329342, none⟩
    let r : Record := ⟨.alarms, .obj [("severity", .str "low")]⟩
    ∃ p P, (usual.compile setting .empty q).2 = .ok p ∧ p.complete = some true ∧
      p.params.Admits r ∧ q.predicate setting = .ok P ∧ P r = false := by
  intro q setting r
  refine ⟨_, _, rfl, rfl, ⟨?_, ?_, ?_⟩, rfl, by decide⟩
  · have hget : Predicate.equalTo "severity" (.text "low") r = true := by decide
    intro field hf value hv
    simp only [Filter.passedFields, List.mem_cons, List.not_mem_nil, or_false] at hf
    rcases hf with rfl | rfl
    · cases hv
      exact ⟨_, rfl, hget⟩
    · cases hv
  · rintro s (hs | ⟨text, hs, -⟩) <;> cases hs
  · rintro s (hs | ⟨text, hs, -⟩) <;> cases hs

end Registry

end NetQuery
