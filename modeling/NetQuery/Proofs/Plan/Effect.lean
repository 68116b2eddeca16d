import NetQuery.Library
import NetQuery.Proofs.Plan.Order
import NetQuery.Proofs.Plan.Split

namespace NetQuery

namespace Plan

/-- What a plan asks the backend for, and what it keeps of the records that it is given. -/
def effect (p : Plan) : Params × (List Record → List Record) :=
  (p.params, fun records => (p.run records).1)

variable {p p' q q' : Plan} {plans : List Plan}

theorem effect_congr (hparams : p.params = p'.params) (haccepts : ∀ r, p.accepts r = p'.accepts r) :
    p.effect = p'.effect := by
  have hkept : ∀ records, (p.run records).1 = (p'.run records).1 := by
    intro records
    rw [run_kept, run_kept]
    apply List.filter_congr
    intro r _
    exact haccepts r
  simp [effect, hparams, hkept]

theorem accepts_of_effect (h : p.effect = p'.effect) (r : Record) : p.accepts r = p'.accepts r := by
  have hkept := congrFun (congrArg Prod.snd h) [r]
  simp only [effect, run_kept] at hkept
  cases hp : p.accepts r <;> cases hp' : p'.accepts r <;> simp [hp, hp'] at hkept ⊢

theorem accepts_merge (p q : Plan) (r : Record) :
    (p.merge q).accepts r = (p.accepts r && q.accepts r) := by
  simp [accepts]

theorem effect_merge (hp : p.effect = p'.effect) (hq : q.effect = q'.effect) :
    (p.merge q).effect = (p'.merge q').effect := by
  apply effect_congr
  · have hparams : p.params = p'.params := congrArg Prod.fst hp
    have hparams' : q.params = q'.params := congrArg Prod.fst hq
    simp [merge, hparams, hparams']
  · intro r
    rw [accepts_merge, accepts_merge, accepts_of_effect hp, accepts_of_effect hq]

/-- A plan merged with itself, any number of times, has its own effect. -/
theorem effect_mergeAll_of_forall (hne : plans ≠ []) (h : ∀ q ∈ plans, q = p) :
    (empty.mergeAll plans).effect = p.effect := by
  obtain ⟨q, hq⟩ := List.exists_mem_of_ne_nil plans hne
  obtain rfl := h q hq
  apply effect_congr
  · have hagree : Agree plans := by
      intro a ha b hb key value value' hvalue hvalue'
      rw [h a ha] at hvalue
      rw [h b hb, hvalue] at hvalue'
      exact Option.some.inj hvalue'
    apply Params.ext_get?
    intro key
    apply Option.ext
    intro value
    rw [get?_mergeAll_iff hagree]
    constructor
    · intro ⟨a, ha, hvalue⟩
      rwa [h a ha] at hvalue
    · intro hvalue
      exact ⟨q, hq, hvalue⟩
  · intro r
    apply Bool.eq_iff_iff.mpr
    rw [accepts_mergeAll]
    constructor
    · intro hall
      exact hall q hq
    · intro hr a ha
      rwa [h a ha]

end Plan

namespace Registry

variable {registry : Registry} {setting : Setting} {journal : Journal} {q c d : Query}

section

variable [Regex.Library]

/-- The plan of a condition, whatever else is demanded with it. -/
def planOf (registry : Registry) (setting : Setting) (q : Query) : Except PlanError Plan :=
  (registry.step setting 1 q).map Step.plan

theorem plan_step (count : Nat) :
    (registry.step setting count q).map Step.plan = registry.planOf setting q := by
  unfold planOf step
  split
  · rfl
  · split
    · rfl
    · rfl

theorem compile_of_one (h : q.conjuncts = [c]) :
    (registry.compile setting journal q).2 = registry.planOf setting c := by
  unfold compile
  rw [h, compileFrom, planOf, List.length_singleton]
  cases registry.step setting 1 c with
  | error e => rfl
  | ok s => simp [compileFrom, Except.map]

theorem compile_of_two (h : q.conjuncts = [c, d]) :
    (registry.compile setting journal q).2 =
      (registry.planOf setting c).bind fun p => (registry.planOf setting d).map p.merge := by
  unfold compile
  rw [h, ← plan_step (q := c) 2, ← plan_step (q := d) 2, compileFrom]
  cases hc : registry.step setting 2 c with
  | error e => simp [Except.map, Except.bind]
  | ok s =>
    cases hd : registry.step setting 2 d with
    | error e => simp [compileFrom, hd, Except.map, Except.bind]
    | ok s' => simp [compileFrom, hd, Except.map, Except.bind]

/-- A condition that no filter accepts is left to a stage with its meaning. -/
theorem planOf_of_no_handler (hm : q.isMatchAll = false)
    (hh : registry.handlers setting.entity q = []) :
    registry.planOf setting q = ((q.predicate setting).mapError .clause).map (residualPlan q) := by
  rw [planOf, step, hm, hh]
  cases q.predicate setting with
  | error e => rfl
  | ok P => rfl

/-- Filters that all make the same plan of a clause have it merged with itself. -/
theorem foldlM_plan_of_forall {filters : List Filter} {p : Plan} (total : Plan)
    (h : ∀ filter ∈ filters, filter.plan setting q = .ok p) :
    filters.foldlM (fun total filter => (filter.plan setting q).map total.merge) total =
      .ok (total.mergeAll (filters.map fun _ => p)) := by
  induction filters generalizing total with
  | nil => rfl
  | cons filter rest ih =>
    obtain ⟨hfirst, hrest⟩ := List.forall_mem_cons.mp h
    rw [List.foldlM_cons, hfirst]
    exact ih (total.merge p) hrest

theorem effect_planOf_of_handlers {x : Except PlanError Plan} (hm : q.isMatchAll = false)
    (hh : registry.handlers setting.entity q ≠ [])
    (h : ∀ filter ∈ registry.handlers setting.entity q, filter.plan setting q = x) :
    (registry.planOf setting q).map Plan.effect = x.map Plan.effect := by
  have happly : registry.planOf setting q = registry.apply setting q := by
    rw [planOf, step, hm]
    split
    · contradiction
    · split
      · next hnil => exact absurd hnil hh
      · cases registry.apply setting q <;> rfl
  rw [happly, apply]
  generalize registry.handlers setting.entity q = filters at hh h
  cases x with
  | error e =>
    cases filters with
    | nil => exact absurd rfl hh
    | cons filter rest =>
      have hfirst : filter.plan setting q = .error e := h filter List.mem_cons_self
      rw [List.foldlM_cons, hfirst]
      rfl
  | ok p =>
    have hsame : ∀ p' ∈ filters.map fun _ => p, p' = p := by
      intro p' hp'
      obtain ⟨-, -, rfl⟩ := List.mem_map.mp hp'
      rfl
    have hne : (filters.map fun _ => p) ≠ [] := by simpa using hh
    rw [foldlM_plan_of_forall .empty h]
    exact congrArg Except.ok (Plan.effect_mergeAll_of_forall hne hsame)

end

theorem effect_merge_of_effects {x x' y y' : Except PlanError Plan}
    (hx : x.map Plan.effect = x'.map Plan.effect) (hy : y.map Plan.effect = y'.map Plan.effect) :
    (x.bind fun p => y.map p.merge).map Plan.effect =
      (x'.bind fun p => y'.map p.merge).map Plan.effect := by
  cases x <;> cases x' <;> cases y <;> cases y' <;> simp_all [Except.map, Except.bind]
  -- Only where all plans are made is there something to merge.
  next hx hy => exact Plan.effect_merge hx hy

theorem handlers_congr {entity : Entity} (h : ∀ filter : Filter, filter.accepts entity q =
    filter.accepts entity c) : registry.handlers entity q = registry.handlers entity c := by
  apply List.filter_congr
  intro filter _
  exact h filter

end Registry

namespace Predicate

/-- A value lies in a window when it lies beyond its beginning and before its end. -/
theorem inWindow_eq_and (name : String) (first last : Int) :
    inWindow name ⟨some first, some last⟩ = fun r =>
      inWindow name ⟨some first, none⟩ r && inWindow name ⟨none, some last⟩ r := by
  funext r
  cases h : (r.get? name).bind Epoch.ofRecord? <;> simp [inWindow, h, Window.contains]

/-- A bound is checked like a comparison that admits the bound itself just where that is allowed,
and otherwise what lies on its side. -/
theorem beyondBound_of_admits {side : Ordering} {inclusive : Bool} {op : Comparison}
    (hop : ∀ o, op.admits o = if o = .eq then inclusive else o == side) (kind : Option FieldKind)
    (actual : Json) (bound : Literal) :
    beyondBound kind side inclusive actual (some bound) =
      (Match.order? kind actual bound).any op.admits := by
  cases h : Match.order? kind actual bound with
  | none => simp [beyondBound, h]
  | some o => cases o <;> simp [beyondBound, h, hop]

theorem between_eq_and (name : String) (kind : Option FieldKind) (least greatest : Literal)
    (inclusive : Bool) :
    between name kind (some least) (some greatest) inclusive = fun r =>
      comparing name kind (if inclusive then .ge else .gt) least r &&
        comparing name kind (if inclusive then .le else .lt) greatest r := by
  have hlower : ∀ o, (if inclusive then Comparison.ge else .gt).admits o =
      if o = .eq then inclusive else o == .gt := by
    intro o
    cases inclusive <;> cases o <;> rfl
  have hupper : ∀ o, (if inclusive then Comparison.le else .lt).admits o =
      if o = .eq then inclusive else o == .lt := by
    intro o
    cases inclusive <;> cases o <;> rfl
  funext r
  simp only [between, comparing, beyondBound_of_admits hlower, beyondBound_of_admits hupper]
  cases r.get? name <;> rfl

end Predicate

namespace Window

theorem beyond_lower (t : Int) (inclusive : Bool) :
    beyond t (if inclusive then .ge else .gt) = ⟨some (t + if inclusive then 0 else 1), none⟩ := by
  cases inclusive <;> simp [beyond]

theorem beyond_upper (t : Int) (inclusive : Bool) :
    beyond t (if inclusive then .le else .lt) = ⟨none, some (t - if inclusive then 0 else 1)⟩ := by
  cases inclusive <;> simp [beyond]

end Window

namespace Query

/-- The two comparisons that a range with both bounds stands for, both demanded. -/
def bounded (name : String) (least greatest : Literal) (inclusive : Bool) : Query :=
  .and (.comparison name (if inclusive then .ge else .gt) least)
    (.comparison name (if inclusive then .le else .lt) greatest)

theorem predicate_range [Regex.Library] (setting : Setting) (name : String)
    (least greatest : Literal) (inclusive : Bool) :
    (range name (some least) (some greatest) inclusive).predicate setting =
      (bounded name least greatest inclusive).predicate setting := by
  by_cases hkind : setting.entity.kind? name = some .timestamp
  · simp only [bounded, predicate, hkind, if_true, Window.ofRange, Window.boundTime,
      Window.beyond_lower, Window.beyond_upper]
    cases least.time setting.now with
    | error e => rfl
    | ok t =>
      cases greatest.time setting.now with
      | error e => rfl
      | ok t' => exact congrArg Except.ok (Predicate.inWindow_eq_and name _ _)
  · simp only [bounded, predicate, hkind, if_false]
    exact congrArg Except.ok (Predicate.between_eq_and name _ least greatest inclusive)

end Query

namespace Filter

variable {registry : Registry} {setting : Setting} {filter : Filter}

/-- The plan for a window with two ends does what the plans for its two ends do together. -/
theorem effect_windowPlan (entity : Entity) (name : String) (first last : Int) :
    (windowPlan entity name ⟨some first, some last⟩).effect =
      ((windowPlan entity name ⟨some first, none⟩).merge
        (windowPlan entity name ⟨none, some last⟩)).effect := by
  apply Plan.effect_congr
  · apply Params.ext_get?
    intro key
    cases entity with
    | alarms =>
      cases hfirst : Instant.iso? first <;> cases hlast : Instant.iso? last <;>
        simp [windowPlan, setOptional, Plan.setParam, Plan.merge, Params.get?_insert, Plan.empty,
          hfirst, hlast]
      split <;> rfl
    | flows =>
      simp only [windowPlan, setOptional, Plan.setParam, Plan.merge, Params.get?_insert,
        Params.get?_union, Plan.empty, Option.map_some, Option.map_none, Params.get?_empty]
      split <;> rfl
    | rules | devices | targetLists => rfl
  · intro r
    rw [Plan.accepts_merge]
    cases entity with
    | alarms =>
      cases hfirst : Instant.iso? first <;> cases hlast : Instant.iso? last <;>
        simp [windowPlan, setOptional, Plan.setParam, Plan.accepts, Plan.stageList, Plan.empty,
          hfirst, hlast]
    | flows => rfl
    | rules | devices | targetLists =>
      simp [windowPlan, windowStage, Plan.accepts, Plan.addStage, Plan.stageList, Plan.empty,
        Predicate.inWindow_eq_and name first last]

/-- Ranges and comparisons go to the same filters, those for times. -/
theorem accepts_range (filter : Filter) (entity : Entity) (name : String)
    (least greatest value : Literal) (inclusive : Bool) (op : Comparison) :
    filter.accepts entity (.range name (some least) (some greatest) inclusive) =
      filter.accepts entity (.comparison name op value) := by
  cases filter <;> rfl

theorem eq_timeRange_of_accepts {entity : Entity} {name : String} {value : Literal}
    {op : Comparison} (h : filter.accepts entity (.comparison name op value) = true) :
    filter = .timeRange := by
  cases filter with
  | timeRange => rfl
  | address | severity | protocol => cases h

/-- The filter for times does for a range what it does for the two comparisons together. -/
theorem effect_plan_range [Regex.Library] (setting : Setting) (name : String)
    (least greatest : Literal) (inclusive : Bool) :
    (timeRange.plan setting (.range name (some least) (some greatest) inclusive)).map Plan.effect =
      ((timeRange.plan setting (.comparison name (if inclusive then .ge else .gt) least)).bind
        fun p => (timeRange.plan setting (.comparison name (if inclusive then .le else .lt)
          greatest)).map p.merge).map Plan.effect := by
  simp only [plan, window, Window.ofClause?, Window.ofRange, Window.boundTime,
    Window.beyond_lower, Window.beyond_upper, Query.fieldName?]
  cases least.time setting.now with
  | error e => rfl
  | ok t =>
    cases greatest.time setting.now with
    | error e => rfl
    | ok t' => exact congrArg Except.ok (effect_windowPlan setting.entity name _ _)

end Filter

namespace Registry

variable {registry : Registry} {setting : Setting} {q c d : Query}

variable [Regex.Library]

theorem effect_residualPlan_and (hq : q.predicate setting = (Query.and c d).predicate setting) :
    (((q.predicate setting).mapError PlanError.clause).map (residualPlan q)).map Plan.effect =
      ((((c.predicate setting).mapError PlanError.clause).map (residualPlan c)).bind fun p =>
        (((d.predicate setting).mapError PlanError.clause).map
          (residualPlan d)).map p.merge).map Plan.effect := by
  rw [hq, Query.predicate]
  cases c.predicate setting with
  | error e => rfl
  | ok P =>
    cases d.predicate setting with
    | error e => rfl
    | ok P' =>
      apply congrArg Except.ok
      apply Plan.effect_congr
      · rfl
      · intro r
        rw [Plan.accepts_merge]
        simp [Plan.accepts, Plan.stageList, residualPlan]

/-- A range is planned like its two comparisons together. -/
theorem effect_planOf_range (registry : Registry) (setting : Setting) (name : String)
    (least greatest : Literal) (inclusive : Bool) :
    (registry.planOf setting (.range name (some least) (some greatest) inclusive)).map
        Plan.effect =
      ((registry.planOf setting (.comparison name (if inclusive then .ge else .gt) least)).bind
        fun p => (registry.planOf setting (.comparison name (if inclusive then .le else .lt)
          greatest)).map p.merge).map Plan.effect := by
  have hsame (op : Comparison) (value : Literal) :
      registry.handlers setting.entity (.comparison name op value) =
        registry.handlers setting.entity (.range name (some least) (some greatest) inclusive) := by
    apply handlers_congr
    intro filter
    exact (Filter.accepts_range filter _ name least greatest value inclusive op).symm
  by_cases hh : registry.handlers setting.entity
      (.range name (some least) (some greatest) inclusive) = []
  · rw [planOf_of_no_handler rfl hh, planOf_of_no_handler rfl ((hsame _ _).trans hh),
      planOf_of_no_handler rfl ((hsame _ _).trans hh)]
    exact effect_residualPlan_and (Query.predicate_range setting name least greatest inclusive)
  · have htime : ∀ filter ∈ registry.handlers setting.entity
        (.range name (some least) (some greatest) inclusive), filter = .timeRange := by
      intro filter hfilter
      rw [← hsame .ge least] at hfilter
      exact Filter.eq_timeRange_of_accepts (List.mem_filter.mp hfilter).2
    have hcomparison (op : Comparison) (value : Literal) :
        (registry.planOf setting (.comparison name op value)).map Plan.effect =
          (Filter.timeRange.plan setting (.comparison name op value)).map Plan.effect := by
      apply effect_planOf_of_handlers rfl
      · rw [hsame]
        exact hh
      · intro filter hfilter
        rw [hsame] at hfilter
        rw [htime filter hfilter]
    have hrange : (registry.planOf setting (.range name (some least) (some greatest)
        inclusive)).map Plan.effect = (Filter.timeRange.plan setting (.range name (some least)
        (some greatest) inclusive)).map Plan.effect := by
      apply effect_planOf_of_handlers rfl hh
      intro filter hfilter
      rw [htime filter hfilter]
    rw [hrange, Filter.effect_plan_range]
    exact effect_merge_of_effects (hcomparison _ least).symm (hcomparison _ greatest).symm

/-- A range with both bounds is the conjunction of its two comparisons. The evaluator of records
takes both for the same predicate or fails on both with the same error, and any filters make plans
of both that ask the backend for the same and keep the same records, or fail on both alike. -/
theorem range_eq_bounded (registry : Registry) (setting : Setting) (journal journal' : Journal)
    (name : String) (least greatest : Literal) (inclusive : Bool) :
    (Query.range name (some least) (some greatest) inclusive).predicate setting =
        (Query.bounded name least greatest inclusive).predicate setting ∧
      (registry.compile setting journal
          (.range name (some least) (some greatest) inclusive)).2.map Plan.effect =
        (registry.compile setting journal'
          (.bounded name least greatest inclusive)).2.map Plan.effect := by
  constructor
  · exact Query.predicate_range setting name least greatest inclusive
  · rw [compile_of_one rfl, effect_planOf_range]
    exact congrArg (Except.map Plan.effect) (compile_of_two rfl).symm

end Registry

/-- The evaluator takes an inequality for the negated equality. -/
theorem Query.predicate_ne [Regex.Library] (setting : Setting) {name : String} (value : Literal)
    (hname : name ≠ matchAllName) :
    (field name value (some .ne)).predicate setting =
      (not (field name value none)).predicate setting := by
  have hstar : (name == matchAllName) = false := by simpa using hname
  simp only [predicate, fieldPredicate, hstar]
  cases hkind : setting.entity.kind? name with
  | none => rfl
  | some kind =>
    cases kind with
    | timestamp => cases value.time setting.now <;> rfl
    | _ => rfl

/-- Inequalities go to the filter for addresses only. -/
theorem Filter.eq_address_of_accepts_ne {filter : Filter} {entity : Entity} {name : String}
    {value : Literal} (h : filter.accepts entity (.field name value (some .ne)) = true) :
    filter = .address ∧ entity.kind? name = some .ip := by
  cases filter with
  | address =>
    have hkind : entity.isOfKind name .ip = true := by simpa [accepts] using h
    exact ⟨rfl, kind?_of_isOfKind hkind⟩
  | timeRange | severity | protocol => cases h

namespace Registry

variable {setting : Setting} {name : String} {value : Literal}

section

variable [Regex.Library]

/-- Negations go to no filter. -/
theorem planOf_not (registry : Registry) (setting : Setting) (operand : Query) :
    registry.planOf setting (.not operand) =
      (((Query.not operand).predicate setting).mapError .clause).map
        (residualPlan (.not operand)) := by
  apply planOf_of_no_handler
  · rfl
  · apply List.filter_eq_nil_iff.mpr
    intro filter _
    cases filter <;> simp [Filter.accepts, Filter.isEqualityOn]

/-- An inequality is planned like the negated equality. -/
theorem effect_planOf_ne (registry : Registry) (setting : Setting) (value : Literal)
    (hname : name ≠ Query.matchAllName) :
    (registry.planOf setting (.field name value (some .ne))).map Plan.effect =
      (registry.planOf setting (.not (.field name value none))).map Plan.effect := by
  have hstar : (Query.field name value (some .ne)).isMatchAll = false := by
    simpa [Query.isMatchAll] using hname
  rw [planOf_not, ← Query.predicate_ne setting value hname]
  by_cases hh : registry.handlers setting.entity (.field name value (some .ne)) = []
  · rw [planOf_of_no_handler hstar hh]
    cases (Query.field name value (some .ne)).predicate setting <;> rfl
  · have haddress : ∀ filter ∈ registry.handlers setting.entity (.field name value (some .ne)),
        filter = .address ∧ setting.entity.kind? name = some .ip := by
      intro filter hfilter
      exact Filter.eq_address_of_accepts_ne (List.mem_filter.mp hfilter).2
    obtain ⟨filter, hfilter⟩ := List.exists_mem_of_ne_nil _ hh
    have hkind : setting.entity.kind? name = some .ip := (haddress filter hfilter).2
    have hpredicate : (Query.field name value (some .ne)).predicate setting = .ok fun r =>
        !Predicate.onAddress name (.ofText value.toText) r := by
      simp [Query.predicate_on_address hkind]
    have hplan : (registry.planOf setting (.field name value (some .ne))).map Plan.effect =
        (Filter.address.plan setting (.field name value (some .ne))).map Plan.effect := by
      apply effect_planOf_of_handlers hstar hh
      intro filter hfilter
      rw [(haddress filter hfilter).1]
    rw [hplan, hpredicate]
    apply congrArg Except.ok
    apply Plan.effect_congr
    · rfl
    · intro r
      simp [Filter.addressPlan, residualPlan, Plan.accepts, Plan.stageList]

/-- An inequality on a field is the negation of the equality, written without a relation. The
evaluator of records takes it for the complement or fails with the same error, and any filters make
plans of both that ask the backend for the same and keep the same records, or fail on both alike. -/
theorem ne_eq_not (registry : Registry) (setting : Setting) (journal journal' : Journal)
    (value : Literal) (hname : name ≠ Query.matchAllName) :
    (Query.field name value (some .ne)).predicate setting =
        ((Query.field name value none).predicate setting).map (fun p r => !p r) ∧
      (registry.compile setting journal (.field name value (some .ne))).2.map Plan.effect =
        (registry.compile setting journal' (.not (.field name value none))).2.map
          Plan.effect := by
  constructor
  · rw [Query.predicate_ne setting value hname, Query.predicate]
    cases (Query.field name value none).predicate setting <;> rfl
  · rw [compile_of_one rfl, compile_of_one rfl]
    exact effect_planOf_ne registry setting value hname

end

/-- An address that is none: only the filter that the inequality goes to warns of it, and both plans
keep every record. -/
theorem ne_eq_not_of_invalid_address :
    let setting : Setting := ⟨.flows, 1705329342, none⟩
    let value : Literal := .text "999.1.1.1"
    "source_ip" ≠ Query.matchAllName ∧
    ∃ p, (usual.compile setting .empty (.field "source_ip" value (some .ne))).2 = .ok p ∧
    ∃ p', (usual.compile setting .empty (.not (.field "source_ip" value none))).2 = .ok p' ∧
      p.warnings ≠ p'.warnings ∧ p.params = p'.params ∧
      ∀ records, (p.run records).1 = (p'.run records).1 := by
  intro setting value
  have hname : "source_ip" ≠ Query.matchAllName := by decide
  have hne : (usual.compile setting .empty (.field "source_ip" value (some .ne))).2 = .ok _ := rfl
  have hnot : (usual.compile setting .empty (.not (.field "source_ip" value none))).2 = .ok _ := rfl
  have heffect := (ne_eq_not usual setting .empty .empty value hname).2
  rw [hne, hnot] at heffect
  obtain ⟨hparams, hkept⟩ := Prod.mk.inj (Except.ok.inj heffect)
  exact ⟨hname, _, hne, _, hnot, by decide, hparams, fun records => congrFun hkept records⟩

end Registry

end NetQuery
