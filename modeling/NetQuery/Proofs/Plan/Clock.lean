import NetQuery.Proofs.Plan.Split

namespace NetQuery

/-- Whether the literal is an amount of time before now. -/
def Literal.isRelative : Literal → Bool
  | .text s => (relative? (Text.trimBlanks s.toList)).isSome
  | _ => false

namespace Query

def literals : Query → List Literal
  | field _ value _ | comparison _ _ value => [value]
  | range _ min max _ => min.toList ++ max.toList
  | _ => []

theorem mem_literals_of_mem_min {name : String} {min max : Option Literal} {inclusive : Bool}
    {v : Literal} (hv : v ∈ min) : v ∈ (range name min max inclusive).literals :=
  List.mem_append_left _ (Option.mem_toList.mpr hv)

theorem mem_literals_of_mem_max {name : String} {min max : Option Literal} {inclusive : Bool}
    {v : Literal} (hv : v ∈ max) : v ∈ (range name min max inclusive).literals :=
  List.mem_append_right _ (Option.mem_toList.mpr hv)

/-- Whether a clause has a relative time on a time field. -/
def readsClock (entity : Entity) (q : Query) : Bool :=
  q.leaves.any fun leaf =>
    leaf.literals.any fun v =>
      v.isRelative && leaf.fieldName?.any (entity.isOfKind · .timestamp)

end Query

def Setting.at (setting : Setting) (now : Int) : Setting :=
  { setting with now }

@[simp] theorem Setting.entity_at (setting : Setting) (now : Int) :
    (setting.at now).entity = setting.entity := rfl

theorem Literal.time_eq {v : Literal} (h : v.isRelative = false) (now now' : Int) :
    v.time now = v.time now' := by
  cases v with
  | text s =>
    have hr : relative? (Text.trimBlanks s.toList) = none := by
      simpa [isRelative] using h
    simp [time, timeOfText, hr]
  | _ => rfl

namespace Window

variable {setting : Setting} {q : Query}

theorem boundTime_eq {bound : Option Literal} (h : ∀ v ∈ bound, v.isRelative = false)
    (now now' : Int) : boundTime now bound = boundTime now' bound := by
  cases bound with
  | none => rfl
  | some v => simp only [boundTime, v.time_eq (h v rfl) now now']

theorem ofRange_at {least greatest : Option Literal} (hleast : ∀ v ∈ least, v.isRelative = false)
    (hgreatest : ∀ v ∈ greatest, v.isRelative = false) (inclusive : Bool) (now : Int) :
    ofRange (setting.at now) least greatest inclusive =
      ofRange setting least greatest inclusive := by
  simp only [ofRange, Setting.at, boundTime_eq hleast now setting.now,
    boundTime_eq hgreatest now setting.now]

theorem ofClause?_at (h : ∀ v ∈ q.literals, v.isRelative = false) (now : Int) :
    ofClause? (setting.at now) q = ofClause? setting q := by
  cases q with
  | field name value relation =>
    have hv := value.time_eq (h value List.mem_cons_self) now setting.now
    simp only [ofClause?, Setting.at, hv]
    rfl
  | comparison name op value =>
    have hv := value.time_eq (h value List.mem_cons_self) now setting.now
    simp only [ofClause?, Setting.at, hv]
  | range name min max inclusive =>
    have hmin := fun v hv => h v (Query.mem_literals_of_mem_min hv)
    have hmax := fun v hv => h v (Query.mem_literals_of_mem_max hv)
    simp only [ofClause?, ofRange_at hmin hmax]
  | _ => rfl

end Window

namespace Query

variable {setting : Setting} {q : Query}

/-- The literals of a clause that does not read the clock are no relative times, if it is on a time
field. -/
theorem isRelative_of_readsClock {name : String} (hq : q.leaves = [q])
    (hname : q.fieldName? = some name) (h : q.readsClock setting.entity = false)
    (hkind : setting.entity.kind? name = some .timestamp) :
    ∀ v ∈ q.literals, v.isRelative = false := by
  intro v hv
  have hk : setting.entity.isOfKind name .timestamp = true := by simp [Entity.isOfKind, hkind]
  simp only [readsClock, hq, List.any_cons, List.any_nil, Bool.or_false, List.any_eq_false,
    hname, Option.any_some, hk, Bool.and_true] at h
  simpa using h v hv

/-- The meaning of a query without relative times is the same at any moment. -/
theorem predicate_at [Regex.Library] (h : q.readsClock setting.entity = false) (now : Int) :
    q.predicate (setting.at now) = q.predicate setting := by
  induction q with
  | field name value relation =>
    simp only [predicate, fieldPredicate, Setting.entity_at]
    split
    · rfl
    · split
      · rfl
      · split
        · rfl
        · next hkind =>
          have hv := isRelative_of_readsClock rfl rfl h hkind value List.mem_cons_self
          simp only [Setting.at, value.time_eq hv now setting.now]
          rfl
        · rfl
  | wildcard name pattern => rfl
  | range name min max inclusive =>
    by_cases hkind : setting.entity.kind? name = some .timestamp
    · have hv := isRelative_of_readsClock rfl rfl h hkind
      have hmin := fun v hm => hv v (mem_literals_of_mem_min hm)
      have hmax := fun v hm => hv v (mem_literals_of_mem_max hm)
      simp only [predicate, Setting.entity_at, Window.ofRange_at hmin hmax]
    · simp [predicate, hkind]
  | comparison name op value =>
    by_cases hkind : setting.entity.kind? name = some .timestamp
    · have hv := isRelative_of_readsClock rfl rfl h hkind value List.mem_cons_self
      simp only [predicate, Setting.at, value.time_eq hv now setting.now]
    · simp [predicate, hkind]
  | group body ih => exact ih h
  | and left right ihl ihr | or left right ihl ihr =>
    obtain ⟨hl, hr⟩ : left.readsClock setting.entity = false ∧
        right.readsClock setting.entity = false := by
      simpa [readsClock, leaves, Bool.or_eq_false_iff] using h
    simp only [predicate, ihl hl, ihr hr]
  | not operand ih => simp only [predicate, ih h]

theorem readsClock_of_mem_conjuncts {entity : Entity} (h : q.readsClock entity = false) {c : Query}
    (hc : c ∈ q.conjuncts) : c.readsClock entity = false := by
  rw [readsClock, List.any_eq_false] at h ⊢
  exact fun leaf hleaf => h leaf (leaves_subset_of_conjunct hc hleaf)

end Query

namespace Filter

variable {setting : Setting} {q : Query}

/-- What a filter makes of a clause that it accepts is the same at any moment, if the clause has no
relative times. -/
theorem plan_at [Regex.Library] {filter : Filter} (ha : filter.accepts setting.entity q = true)
    (h : q.readsClock setting.entity = false) (now : Int) :
    filter.plan (setting.at now) q = filter.plan setting q := by
  cases filter with
  | timeRange =>
    have hkind := kind?_of_isOfKind (isOfKind_of_accepts ha)
    have hv : ∀ v ∈ q.literals, v.isRelative = false := by
      cases q with
      | field | range | comparison => exact Query.isRelative_of_readsClock rfl rfl h hkind
      | _ => cases ha
    simp only [plan, window, Window.ofClause?_at hv, Setting.entity_at]
  | _ => rfl

end Filter

namespace Registry

variable {registry : Registry} {setting : Setting} {q : Query}

variable [Regex.Library]

theorem apply_at (h : q.readsClock setting.entity = false) (now : Int) :
    registry.apply (setting.at now) q = registry.apply setting q := by
  have hplan : ∀ filter ∈ registry.handlers setting.entity q,
      filter.plan (setting.at now) q = filter.plan setting q := fun filter hf =>
    Filter.plan_at (List.mem_filter.mp hf).2 h now
  unfold apply
  rw [Setting.entity_at]
  generalize registry.handlers setting.entity q = filters at hplan
  generalize Plan.empty = total
  induction filters generalizing total with
  | nil => rfl
  | cons filter rest ih =>
    obtain ⟨hfirst, hrest⟩ := List.forall_mem_cons.mp hplan
    rw [List.foldlM_cons, List.foldlM_cons, hfirst]
    cases filter.plan setting q with
    | error e => rfl
    | ok p => exact ih hrest _

theorem step_at (h : q.readsClock setting.entity = false) (count : Nat) (now : Int) :
    registry.step (setting.at now) count q = registry.step setting count q := by
  simp only [step, Setting.entity_at, q.predicate_at h, apply_at h]

/-- The plan of a query without relative times, and the journal of making it, are the same at any
moment. -/
theorem compile_at (h : q.readsClock setting.entity = false) (journal : Journal) (now : Int) :
    registry.compile (setting.at now) journal q = registry.compile setting journal q := by
  have hconjuncts : ∀ c ∈ q.conjuncts, c.readsClock setting.entity = false := fun c hc =>
    q.readsClock_of_mem_conjuncts h hc
  unfold compile
  generalize q.conjuncts.length = count
  generalize q.conjuncts = conditions at hconjuncts
  generalize Plan.empty = total
  induction conditions generalizing journal total with
  | nil => rfl
  | cons c rest ih =>
    obtain ⟨hc, hrest⟩ := List.forall_mem_cons.mp hconjuncts
    simp only [compileFrom, step_at hc]
    cases registry.step setting count c with
    | error e => rfl
    | ok s => exact ih _ hrest _

end Registry

end NetQuery
