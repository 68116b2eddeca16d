import NetQuery.Proofs.Query.Placement
import NetQuery.Proofs.Query.Reprinting

namespace NetQuery

open Grammar

namespace Query

variable {entity : Entity} {leaf : Query}

theorem fieldName?_of_isMatchAll (h : leaf.isMatchAll = true) :
    leaf.fieldName? = some matchAllName := by
  cases leaf with
  | field name => exact congrArg some (beq_iff_eq.mp h)
  | _ => cases h

/-- A clause is in order when it is the star, or the entity declares its field. -/
theorem undeclaredName?_eq_none_iff {name : String} (h : leaf.fieldName? = some name) :
    undeclaredName? entity leaf = none ↔ leaf.isMatchAll = true ∨ entity.hasField name = true := by
  unfold undeclaredName?
  rw [h]
  cases leaf.isMatchAll <;> simp [Option.filter]

/-- The names that the check finds are the fields of the clauses, less the star and the declared
ones. -/
theorem filterMap_undeclaredName? (entity : Entity) (leaves : List Query) :
    leaves.filterMap (undeclaredName? entity) =
      ((leaves.filter fun leaf => !leaf.isMatchAll).filterMap fieldName?).filter fun name =>
        !entity.hasField name := by
  rw [List.filter_filterMap, List.filterMap_filter]
  congr 1
  funext leaf
  unfold undeclaredName?
  cases leaf.isMatchAll <;> rfl

end Query

namespace Verdict

variable {text : String} {entity : Entity} {q leaf : Query}

/-- A clause that a text was read as is the star, or is on a field with a name of its own. -/
theorem star_or_field (h : (ofText text none).query = some q) (hleaf : leaf ∈ q.leaves) :
    leaf = .matchAll ∨ ∃ name, leaf.fieldName? = some name ∧ leaf.isMatchAll = false := by
  obtain ⟨ts, hs, hd, -⟩ := query_eq_some_iff.mp h
  obtain hnone | ⟨hisLeaf, us, hclause, hus⟩ := hd.exists_clause hleaf
  · cases hnone
  cases hclause with
  | group => cases hisLeaf
  | star => exact .inl rfl
  | @field _ name _ hcond =>
    refine .inr ⟨name, hcond.fieldName?, Bool.eq_false_iff.mpr fun hall => ?_⟩
    have hname := hcond.fieldName?.symm.trans (Query.fieldName?_of_isMatchAll hall)
    exact hs.field_ne_star (hus.subset List.mem_cons_self) (Option.some.inj hname)

theorem in_order_iff (h : (ofText text none).query = some q) (hleaf : leaf ∈ q.leaves) :
    Query.undeclaredName? entity leaf = none ↔
      leaf = .matchAll ∨ ∃ name, leaf.fieldName? = some name ∧ entity.hasField name = true := by
  obtain rfl | ⟨name, hname, hstar⟩ := star_or_field h hleaf
  · exact iff_of_true rfl (.inl rfl)
  · rw [Query.undeclaredName?_eq_none_iff hname, hstar]
    constructor
    · rintro (hfalse | hfield)
      · cases hfalse
      · exact .inr ⟨name, hname, hfield⟩
    · rintro (rfl | ⟨name', hname', hfield⟩)
      · cases hstar
      · rw [hname, Option.some.injEq] at hname'
        exact .inr (hname' ▸ hfield)

/-- With an entity just those queries are accepted whose clauses it has fields for. -/
theorem query_of_entity : (ofText text (some entity)).query = some q ↔
    (ofText text none).query = some q ∧
      ∀ leaf ∈ q.leaves, Query.undeclaredName? entity leaf = none := by
  simp only [query_eq_some_iff, Option.mem_def, Option.some.injEq, forall_eq', reduceCtorEq,
    false_imp_iff, implies_true, and_true]
  constructor
  · rintro ⟨ts, hs, hd, hclauses, hnesting, hnames⟩
    exact ⟨⟨ts, hs, hd, hclauses, hnesting⟩, hnames⟩
  · rintro ⟨⟨ts, hs, hd, hclauses, hnesting⟩, hnames⟩
    exact ⟨ts, hs, hd, hclauses, hnesting, hnames⟩

end Verdict

/-- The check of the fields is exact, and decides which queries are accepted for an entity. -/
theorem Query.undeclaredFields_exact (entity : Entity) (q : Query) :
    (q.undeclaredFields entity).map (·.name) =
        ((q.leaves.filter fun leaf => !leaf.isMatchAll).filterMap fieldName?).filter
          (fun name => !entity.hasField name) ∧
      (q.undeclaredFields entity).map (·.message) =
        ((q.undeclaredFields entity).map (·.name)).map (fun name =>
          "Field '" ++ name ++ "' is not valid for " ++ entity.name ++ ". Valid fields: " ++
            String.intercalate ", " entity.fieldNames) ∧
      ∀ text, (Verdict.ofText text (some entity)).query = some q ↔
        (Verdict.ofText text none).query = some q ∧ ∀ leaf ∈ q.leaves,
          leaf = .matchAll ∨ ∃ name, leaf.fieldName? = some name ∧ entity.hasField name = true := by
  have hnames : (q.undeclaredFields entity).map (·.name) =
      q.leaves.filterMap (undeclaredName? entity) := by
    rw [undeclaredFields_eq, List.map_map]
    exact List.map_id _
  refine ⟨by rw [hnames, filterMap_undeclaredName?], ?_, fun text => ?_⟩
  · rw [hnames, undeclaredFields_eq, List.map_map]
    rfl
  rw [Verdict.query_of_entity]
  exact and_congr_right fun h => forall₂_congr fun leaf hleaf => Verdict.in_order_iff h hleaf

end NetQuery
