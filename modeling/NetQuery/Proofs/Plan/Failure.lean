import NetQuery.Library
import NetQuery.Proofs.Plan.Clock
import NetQuery.Proofs.Query.Reading

namespace NetQuery

/-- Why a computation failed, if it did. -/
def failure? {ε α : Type} : Except ε α → Option ε
  | .ok _ => none
  | .error e => some e

section

variable {ε ε' α β : Type}

@[simp] theorem failure?_ok (a : α) : failure? (.ok a : Except ε α) = none := rfl

@[simp] theorem failure?_error (e : ε) : failure? (.error e : Except ε α) = some e := rfl

@[simp] theorem failure?_map (f : α → β) (x : Except ε α) : failure? (x.map f) = failure? x := by
  cases x <;> rfl

@[simp] theorem failure?_mapError (f : ε → ε') (x : Except ε α) :
    failure? (x.mapError f) = (failure? x).map f := by
  cases x <;> rfl

/-- Two computations of which the second one does not depend on the first fail like the first of
them that fails. -/
theorem failure?_both {γ : Type} (x : Except ε α) (y : Except ε β) (f : α → β → γ) :
    failure? (do let a ← x; let b ← y; .ok (f a b)) = (failure? x).or (failure? y) := by
  cases x <;> cases y <;> rfl

theorem failure?_eq_some {x : Except ε α} {e : ε} : failure? x = some e ↔ x = .error e := by
  cases x <;> simp

theorem exists_error_iff {x : Except ε α} : (∃ e, x = .error e) ↔ (failure? x).isSome = true := by
  cases x <;> simp

theorem failure?_foldlM (x : β → Except ε α) (join : α → α → α) (start : α) (bs : List β) :
    failure? (bs.foldlM (fun total b => (x b).map (join total)) start) =
      bs.findSome? fun b => failure? (x b) := by
  induction bs generalizing start with
  | nil => rfl
  | cons b rest ih =>
    rw [List.foldlM_cons, List.findSome?_cons]
    cases h : x b with
    | error e => rfl
    | ok a => exact ih (join start a)

end

namespace Query

/-- Whether a clause takes its literals for times: it is on a time field, and does not look for text
in it. -/
def readsTimes (entity : Entity) (leaf : Query) : Bool :=
  !leaf.isMatchAll && leaf.fieldName?.any (entity.isOfKind · .timestamp) &&
    match leaf with
    | field _ _ relation => relation != some .approx
    | _ => true

def clauseTimeErrors (setting : Setting) (leaf : Query) : List TimeError :=
  if leaf.readsTimes setting.entity then
    leaf.literals.filterMap fun v => failure? (v.time setting.now)
  else []

/-- Why literals of a query tell no time, from left to right. -/
def timeErrors (setting : Setting) (q : Query) : List TimeError :=
  q.leaves.flatMap (clauseTimeErrors setting)

variable {setting : Setting} {q : Query} {name : String}

theorem mem_timeErrors {e : TimeError} : e ∈ q.timeErrors setting ↔
    ∃ leaf ∈ q.leaves, leaf.readsTimes setting.entity = true ∧
      ∃ v ∈ leaf.literals, v.time setting.now = .error e := by
  simp only [timeErrors, clauseTimeErrors, List.mem_flatMap, List.mem_ite_nil_right,
    List.mem_filterMap, failure?_eq_some]

theorem flatMap_timeErrors (q : Query) :
    q.conjuncts.flatMap (timeErrors setting) = q.timeErrors setting := by
  have hleaves := congrArg (List.flatMap (clauseTimeErrors setting)) q.flatMap_leaves
  rwa [List.flatMap_assoc] at hleaves

theorem timeErrors_not (operand : Query) :
    (not operand).timeErrors setting = operand.timeErrors setting := rfl

theorem timeErrors_of_isLeaf (h : q.isLeaf = true) :
    q.timeErrors setting = q.clauseTimeErrors setting := by
  simp [timeErrors, leaves_of_isLeaf h]

theorem timeErrors_of_isMatchAll (h : q.isMatchAll = true) : q.timeErrors setting = [] := by
  have hleaf : q.isLeaf = true := by
    cases q <;> first | rfl | cases h
  simp [timeErrors_of_isLeaf hleaf, clauseTimeErrors, readsTimes, h]

/-- A clause on a field of another kind has no literal that tells a time. -/
theorem timeErrors_of_kind? (hname : q.fieldName? = some name)
    (hkind : setting.entity.kind? name ≠ some .timestamp) : q.timeErrors setting = [] := by
  have hleaf : q.isLeaf = true := by simp [isLeaf, hname]
  simp [timeErrors_of_isLeaf hleaf, clauseTimeErrors, readsTimes, hname, Entity.isOfKind, hkind]

/-- A clause on a time field has its own literals for times, unless it looks for text. -/
theorem timeErrors_of_timestamp (hname : q.fieldName? = some name)
    (hkind : setting.entity.kind? name = some .timestamp)
    (happrox : ∀ value, q ≠ .field name value (some .approx)) :
    q.timeErrors setting = q.literals.filterMap fun v => failure? (v.time setting.now) := by
  have hleaf : q.isLeaf = true := by simp [isLeaf, hname]
  have hstar := ne_matchAllName_of_kind? hkind
  rw [timeErrors_of_isLeaf hleaf, clauseTimeErrors, if_pos]
  cases q <;> cases hname <;> simp_all [readsTimes, isMatchAll, fieldName?, Entity.isOfKind]

/-- Every text with wildcards in the query is a pattern of the size allowed. -/
def HasPatterns [Regex.Library] (q : Query) : Prop :=
  ∀ name pattern, wildcard name pattern ∈ q.leaves → Glob.isPattern pattern = true

theorem HasPatterns.of_subset [Regex.Library] {q' : Query} (h : q.HasPatterns)
    (hq : q'.leaves ⊆ q.leaves) :
    q'.HasPatterns := fun name pattern hleaf => h name pattern (hq hleaf)

theorem failure?_time (v : Literal) : failure? (v.time setting.now) =
    ([v].filterMap fun v => failure? (v.time setting.now)).head? := by
  cases hv : failure? (v.time setting.now) <;> simp [hv]

theorem failure?_ofRange (min max : Option Literal) (inclusive : Bool) :
    failure? (Window.ofRange setting min max inclusive) =
      ((min.toList ++ max.toList).filterMap fun v => failure? (v.time setting.now)).head? := by
  have hbound (bound : Option Literal) : failure? (Window.boundTime setting.now bound) =
      (bound.toList.filterMap fun v => failure? (v.time setting.now)).head? := by
    cases bound with
    | none => rfl
    | some v => cases h : v.time setting.now <;> simp [Window.boundTime, h, Except.map]
  rw [Window.ofRange, failure?_both, hbound, hbound, List.filterMap_append, List.head?_append]

variable [Regex.Library]

/-- A relation to one value fails where the value is taken for a time and tells none. -/
theorem failure?_fieldPredicate (name : String) (value : Literal) (relation : Option Relation) :
    failure? (fieldPredicate setting name value relation) =
      ((field name value relation).timeErrors setting).head?.map .time := by
  unfold fieldPredicate
  split
  · next hstar => simp [timeErrors_of_isMatchAll (q := field name value relation) hstar]
  · split
    · next hstar happrox =>
      rw [timeErrors_of_isLeaf rfl, clauseTimeErrors, if_neg (by simp [readsTimes, happrox])]
      rfl
    · next hstar happrox =>
      split
      · next hkind => simp [timeErrors_of_kind? (q := field name value relation) rfl, hkind]
      · next hkind =>
        rw [timeErrors_of_timestamp rfl hkind (by simpa using happrox), failure?_map,
          failure?_mapError, failure?_time]
        rfl
      · next hip htime =>
        rw [timeErrors_of_kind? (q := field name value relation) rfl htime]
        rfl

theorem failure?_predicate_of_isLeaf (hleaf : q.isLeaf = true) (h : q.HasPatterns) :
    failure? (q.predicate setting) = (q.timeErrors setting).head?.map .time := by
  cases q with
  | field name value relation =>
    rw [predicate, failure?_fieldPredicate]
  | wildcard name pattern =>
    have hpattern := h name pattern (by simp [leaves])
    have hnone : (wildcard name pattern).timeErrors setting = [] := by
      simp [timeErrors_of_isLeaf hleaf, clauseTimeErrors, literals]
    rw [hnone, predicate, wildcardPredicate, if_pos hpattern]
    split <;> rfl
  | range name min max inclusive =>
    rw [predicate]
    split
    · next hkind =>
      rw [timeErrors_of_timestamp rfl hkind (by simp), failure?_map, failure?_mapError,
        failure?_ofRange]
      rfl
    · next hkind =>
      rw [timeErrors_of_kind? rfl hkind]
      rfl
  | comparison name op value =>
    rw [predicate]
    split
    · next hkind =>
      rw [timeErrors_of_timestamp rfl hkind (by simp), failure?_map, failure?_mapError,
        failure?_time]
      rfl
    · next hkind =>
      rw [timeErrors_of_kind? rfl hkind]
      rfl
  | _ => cases hleaf

/-- The evaluator fails with the error of the first literal that tells no time. -/
theorem failure?_predicate (h : q.HasPatterns) :
    failure? (q.predicate setting) = (q.timeErrors setting).head?.map .time := by
  induction q with
  | group body ih => exact ih h
  | and left right ihl ihr | or left right ihl ihr =>
    have hl := ihl (h.of_subset (List.subset_append_left _ _))
    have hr := ihr (h.of_subset (List.subset_append_right _ _))
    have hboth : ((left.leaves ++ right.leaves).flatMap (clauseTimeErrors setting)).head?.map
        ClauseError.time =
          (failure? (left.predicate setting)).or (failure? (right.predicate setting)) := by
      rw [List.flatMap_append, List.head?_append, Option.map_or, hl, hr]
      rfl
    rw [predicate, failure?_both]
    exact hboth.symm
  | not operand ih =>
    rw [timeErrors_not, ← ih h, predicate]
    cases operand.predicate setting <;> rfl
  | _ => exact failure?_predicate_of_isLeaf rfl h

end Query

namespace Filter

variable {setting : Setting} {q : Query}

theorem failure?_window {w : Except TimeError Window} (h : Window.ofClause? setting q = some w) :
    failure? (window setting q) = (failure? w).map (.clause ∘ .time) := by
  rw [window, h]
  cases w <;> rfl

/-- A filter that passes a field on never fails, and no time is read of its clauses. -/
theorem failure?_pass {filter : Filter} {key : String} (hkey : key ∈ passedFields)
    (he : isEqualityOn key setting.entity q = true) :
    failure? (pass filter key q) = (q.timeErrors setting).head?.map (.clause ∘ .time) := by
  cases q with
  | field name value relation =>
    obtain ⟨⟨heq, rfl⟩, -⟩ : (isEquality relation = true ∧ name = key) ∧
        setting.entity.hasField key = true := by
      simpa [isEqualityOn] using he
    rw [pass, if_pos heq,
      Query.timeErrors_of_kind? (q := .field name value relation) rfl
        (kind?_of_passed hkey setting.entity).2]
    rfl
  | _ => cases he

/-- A window fails with the error of the first of its ends that tells no time. -/
theorem failure?_window_of_accepts (ha : timeRange.accepts setting.entity q = true) :
    failure? (window setting q) = (q.timeErrors setting).head?.map (.clause ∘ .time) := by
  have hkind := kind?_of_isOfKind (isOfKind_of_accepts ha)
  cases q with
  | field name value relation =>
    have heq : isEquality relation = true := by
      simp only [accepts, Bool.and_eq_true] at ha
      exact ha.1
    rw [failure?_window rfl, failure?_map, Query.timeErrors_of_timestamp rfl hkind
      (by rintro _ ⟨⟩; cases heq), Query.failure?_time]
    rfl
  | range name min max inclusive =>
    rw [failure?_window rfl, Query.failure?_ofRange,
      Query.timeErrors_of_timestamp rfl hkind (by simp)]
    rfl
  | comparison name op value =>
    rw [failure?_window rfl, failure?_map, Query.timeErrors_of_timestamp rfl hkind (by simp),
      Query.failure?_time]
    rfl
  | _ => cases ha

/-- A filter fails on a clause that it accepts with the error of the first literal of the clause
that tells no time. -/
theorem failure?_plan [Regex.Library] {filter : Filter}
    (ha : filter.accepts setting.entity q = true) :
    failure? (filter.plan setting q) = (q.timeErrors setting).head?.map (.clause ∘ .time) := by
  cases filter with
  | timeRange => rw [plan, failure?_map, failure?_window_of_accepts ha]
  | address =>
    have hother {name : String} (hname : q.fieldName? = some name)
        (hkind : setting.entity.isOfKind name .ip = true) : q.timeErrors setting = [] :=
      Query.timeErrors_of_kind? hname (by simp [kind?_of_isOfKind hkind])
    cases q with
    | field name value relation =>
      simp only [accepts, Bool.and_eq_true] at ha
      rw [hother rfl ha.2]
      rfl
    | wildcard name pattern =>
      rw [hother rfl ha]
      rfl
    | _ => cases ha
  | severity => exact failure?_pass (by simp [passedFields]) ha
  | protocol => exact failure?_pass (by simp [passedFields]) ha

end Filter

namespace Registry

variable {registry : Registry} {setting : Setting} {q : Query} {count : Nat}

section

variable [Regex.Library]

theorem failure?_apply (h : registry.handlers setting.entity q ≠ []) :
    failure? (registry.apply setting q) = (q.timeErrors setting).head?.map (.clause ∘ .time) := by
  have hplan : ∀ filter ∈ registry.handlers setting.entity q, failure? (filter.plan setting q) =
      (q.timeErrors setting).head?.map (.clause ∘ .time) := fun filter hf =>
    Filter.failure?_plan (List.mem_filter.mp hf).2
  rw [apply, failure?_foldlM]
  generalize registry.handlers setting.entity q = filters at h hplan
  cases filters with
  | nil => exact absurd rfl h
  | cons filter rest =>
    obtain ⟨hfirst, hrest⟩ := List.forall_mem_cons.mp hplan
    rw [List.findSome?_cons, hfirst]
    cases he : (q.timeErrors setting).head? with
    | some e => rfl
    | none =>
      rw [he] at hrest
      exact List.findSome?_eq_none_iff.mpr hrest

theorem failure?_step (h : q.HasPatterns) :
    failure? (registry.step setting count q) =
      (q.timeErrors setting).head?.map (.clause ∘ .time) := by
  unfold step
  split
  · next hall =>
    rw [Query.timeErrors_of_isMatchAll hall]
    rfl
  · split
    · have hp : failure? (q.predicate setting) = _ := q.failure?_predicate h
      rw [← Option.map_map, ← hp]
      split <;> next he => rw [he]; rfl
    · next hhandlers =>
      rw [← failure?_apply hhandlers]
      cases registry.apply setting q <;> rfl

theorem failure?_compileFrom {journal : Journal} {total : Plan} {qs : List Query}
    (h : ∀ q ∈ qs, q.HasPatterns) :
    failure? (registry.compileFrom setting count journal total qs).2 =
      (qs.flatMap (Query.timeErrors setting)).head?.map (.clause ∘ .time) := by
  induction qs generalizing journal total with
  | nil => rfl
  | cons q rest ih =>
    obtain ⟨hq, hrest⟩ := List.forall_mem_cons.mp h
    have hstep : failure? (registry.step setting count q) = _ := failure?_step hq
    rw [List.flatMap_cons, List.head?_append, Option.map_or, ← hstep, compileFrom]
    cases registry.step setting count q with
    | error e => rfl
    | ok s => exact ih hrest

/-- Compiling a query fails just when some literal on a time field tells no time, with the error of
the first such literal; the evaluator of records fails just then, with the same error. No filter is
ever given a clause that it is not for. -/
theorem compile_fails_like_predicate (registry : Registry) (setting : Setting) (journal : Journal)
    (h : q.HasPatterns) :
    (failure? (registry.compile setting journal q).2 =
        (q.timeErrors setting).head?.map (.clause ∘ .time) ∧
      failure? (q.predicate setting) = (q.timeErrors setting).head?.map .time) ∧
    ((∃ e, (registry.compile setting journal q).2 = .error e) ↔
      ∃ e, q.predicate setting = .error e) ∧
    ((∃ e, q.predicate setting = .error e) ↔
      ∃ leaf ∈ q.leaves, leaf.readsTimes setting.entity = true ∧
        ∃ v ∈ leaf.literals, ∃ e, v.time setting.now = .error e) ∧
    ∀ filter text, (registry.compile setting journal q).2 ≠ .error (.unsupported filter text) := by
  have hconditions : ∀ c ∈ q.conjuncts, c.HasPatterns := fun c hc =>
    h.of_subset (Query.leaves_subset_of_conjunct hc)
  have hcompile : failure? (registry.compile setting journal q).2 =
      (q.timeErrors setting).head?.map (.clause ∘ .time) := by
    rw [compile, failure?_compileFrom hconditions, Query.flatMap_timeErrors]
  have hpredicate : failure? (q.predicate setting) = _ := q.failure?_predicate h
  refine ⟨⟨hcompile, hpredicate⟩, ?_, ?_, fun filter text herror => ?_⟩
  · rw [exists_error_iff, exists_error_iff, hcompile, hpredicate, Option.isSome_map,
      Option.isSome_map]
  · rw [exists_error_iff, hpredicate, Option.isSome_map, List.isSome_head?, ne_eq,
      List.eq_nil_iff_forall_not_mem]
    simp only [not_forall, not_not, Query.mem_timeErrors]
    exact ⟨fun ⟨e, leaf, hleaf, htimes, v, hv, he⟩ => ⟨leaf, hleaf, htimes, v, hv, e, he⟩,
      fun ⟨leaf, hleaf, htimes, v, hv, e, he⟩ => ⟨e, leaf, hleaf, htimes, v, hv, he⟩⟩
  · rw [← failure?_eq_some, hcompile, Option.map_eq_some_iff] at herror
    obtain ⟨e, -, he⟩ := herror
    cases he

end

/-- The first literal that tells no time stands under a negation, where no filter looks, and before
another one that a filter would meet. -/
theorem compile_fails_like_predicate_of_negated_time :
    let q : Query := .and (.wildcard "device_name" "lap*")
      (.and (.not (.range "ts" (some (.text "24h")) (some (.text "noon")) true))
        (.field "timestamp" (.text "9999999d") none))
    let setting : Setting := ⟨.alarms, 1705329342, none⟩
    let e : TimeError := .unreadable "noon" .unknownForm
    q.HasPatterns ∧ (usual.compile setting .empty q).2 = .error (.clause (.time e)) ∧
      q.predicate setting = .error (.time e) := by
  intro q setting e
  have hpatterns : q.HasPatterns := by
    intro name pattern hleaf
    obtain ⟨-, rfl⟩ : name = "device_name" ∧ pattern = "lap*" := by
      simpa [q, Query.leaves] using hleaf
    decide +kernel
  have herrors : q.timeErrors setting = [e, .duration "9999999d"] := by decide +kernel
  obtain ⟨⟨hcompile, hpredicate⟩, -⟩ :=
    compile_fails_like_predicate usual setting .empty hpatterns
  rw [herrors] at hcompile hpredicate
  exact ⟨hpatterns, failure?_eq_some.mp hcompile, failure?_eq_some.mp hpredicate⟩

end Registry

end NetQuery
