import NetQuery.Proofs.Plan.Steps

namespace NetQuery

namespace Params

theorem find?_insertMember (key k : String) (value : Json) (entries : List (String × Json)) :
    ((Json.insertMember key value entries).find? (·.1 == k)).map (·.2) =
      if key = k then some value else (entries.find? (·.1 == k)).map (·.2) := by
  induction entries with
  | nil => by_cases hk : key = k <;> simp [Json.insertMember, hk]
  | cons e rest ih =>
    obtain ⟨k', v'⟩ := e
    by_cases he : key = k'
    · subst he
      by_cases hk : key = k <;> simp [Json.insertMember, hk]
    · by_cases hlt : key < k'
      · rw [Json.insertMember, if_neg he, if_pos hlt]
        by_cases hk : key = k <;> simp [hk]
      · rw [Json.insertMember, if_neg he, if_neg hlt]
        by_cases hk' : k' = k
        · have hk : key ≠ k := fun hk => he (hk.trans hk'.symm)
          simp [hk', hk]
        · simpa [hk'] using ih

theorem get?_insert (p : Params) (key k : String) (value : Json) :
    (p.insert key value).get? k = if key = k then some value else p.get? k :=
  find?_insertMember key k value p.entries

@[simp] theorem get?_empty (k : String) : empty.get? k = none := rfl

/-- Inserting entries with different keys sets just these. -/
theorem get?_insertAll {entries : List (String × Json)} (h : KeysIncrease entries) (p : Params)
    (k : String) :
    (entries.foldl (fun p e => p.insert e.1 e.2) p).get? k =
      ((entries.find? (·.1 == k)).map (·.2)).or (p.get? k) := by
  induction entries generalizing p with
  | nil => rfl
  | cons e rest ih =>
    obtain ⟨first, tail⟩ := List.pairwise_cons.mp h
    rw [List.foldl_cons, ih tail, get?_insert]
    by_cases hk : e.1 = k
    · -- No later entry has the key again.
      have hrest : rest.find? (·.1 == k) = none := by
        refine List.find?_eq_none.mpr fun b hb hbk => ?_
        have hlt := first b hb
        rw [hk, (by simpa using hbk : b.1 = k)] at hlt
        exact String.lt_irrefl k hlt
      simp [hk, hrest]
    · simp [hk]

@[simp] theorem get?_union (p q : Params) (k : String) :
    (p.union q).get? k = (q.get? k).or (p.get? k) :=
  get?_insertAll q.increase p k

theorem get?_eq_some_iff {p : Params} {key : String} {value : Json} :
    p.get? key = some value ↔ (key, value) ∈ p.entries := by
  constructor
  · intro h
    obtain ⟨⟨k, v⟩, hfind, hv⟩ := Option.map_eq_some_iff.mp h
    have hk : k = key := by simpa using List.find?_some hfind
    subst hk
    subst hv
    exact List.mem_of_find?_eq_some hfind
  · intro h
    obtain ⟨before, after, he⟩ := List.append_of_mem h
    have hincrease := p.increase
    rw [KeysIncrease, he, List.pairwise_append] at hincrease
    -- The keys in front of this one are smaller.
    have hbefore : before.find? (·.1 == key) = none := by
      apply List.find?_eq_none.mpr
      intro e hmem hkey
      have hlt := hincrease.2.2 e hmem (key, value) List.mem_cons_self
      rw [eq_of_beq hkey] at hlt
      exact String.lt_irrefl key hlt
    simp [get?, he, hbefore]

theorem nodup_entries (p : Params) : p.entries.Nodup := by
  apply p.increase.imp
  intro a b hlt hab
  rw [hab] at hlt
  exact String.lt_irrefl b.1 hlt

theorem ext_get? {p q : Params} (h : ∀ key, p.get? key = q.get? key) : p = q := by
  have hperm : p.entries.Perm q.entries := by
    apply (List.perm_ext_iff_of_nodup p.nodup_entries q.nodup_entries).mpr
    intro e
    rw [← get?_eq_some_iff, ← get?_eq_some_iff, h]
  apply Params.ext
  apply hperm.eq_of_pairwise _ p.increase q.increase
  intro a b _ _ hab hba
  exact absurd hba (String.lt_asymm hab)

theorem union_assoc (p q r : Params) : (p.union q).union r = p.union (q.union r) := by
  apply ext_get?
  intro key
  simp only [get?_union, Option.or_assoc]

@[simp] theorem empty_union (p : Params) : empty.union p = p := by
  apply ext_get?
  intro key
  rw [get?_union, get?_empty, Option.or_none]

end Params

theorem Filter.get?_setOptional (p : Plan) (key k : String) (value : Option Json) :
    (setOptional p key value).params.get? k =
      if key = k then value.or (p.params.get? k) else p.params.get? k := by
  cases value <;> simp [setOptional, Plan.setParam, Params.get?_insert]

namespace Plan

@[simp] theorem empty_merge (p : Plan) : empty.merge p = p := by
  simp [merge, empty]

theorem joinWith_assoc {α : Type} {join : α → α → α}
    (hjoin : ∀ a b c, join (join a b) c = join a (join b c)) (a b c : Option α) :
    joinWith join (joinWith join a b) c = joinWith join a (joinWith join b c) := by
  cases a with
  | none => rw [none_joinWith, none_joinWith]
  | some a =>
    cases c with
    | none => rw [joinWith_none, joinWith_none]
    | some c =>
      cases b with
      | none => rfl
      | some b => exact congrArg some (hjoin a b c)

theorem joinWith_comm {α : Type} {join : α → α → α} (hjoin : ∀ a b, join a b = join b a)
    (a b : Option α) : joinWith join a b = joinWith join b a := by
  cases a with
  | none => rw [none_joinWith, joinWith_none]
  | some a =>
    cases b with
    | none => rfl
    | some b => exact congrArg some (hjoin a b)

theorem merge_assoc (a b c : Plan) : (a.merge b).merge c = a.merge (b.merge c) := by
  have hkeys (a b c : String) : joinKeys (joinKeys a b) c = joinKeys a (joinKeys b c) := by
    simp only [joinKeys, String.append_assoc]
  simp only [merge, Params.union_assoc, joinWith_assoc List.append_assoc,
    joinWith_assoc Bool.and_assoc, joinWith_assoc hkeys, List.append_assoc]

theorem params_mergeAll (total : Plan) (plans : List Plan) :
    (total.mergeAll plans).params = (plans.map params).foldl Params.union total.params := by
  induction plans generalizing total with
  | nil => rfl
  | cons p rest ih => exact ih (total.merge p)

variable {total p : Plan} {plans : List Plan} {key : String} {value : Json}

/-- A parameter of a merge comes from some part. -/
theorem exists_of_get?_mergeAll (h : (total.mergeAll plans).params.get? key = some value) :
    total.params.get? key = some value ∨ ∃ p ∈ plans, p.params.get? key = some value := by
  induction plans generalizing total with
  | nil => exact .inl h
  | cons p rest ih =>
    rcases ih h with h | ⟨q, hq, h⟩
    · simp only [merge, Params.get?_union, Option.or_eq_some_iff] at h
      rcases h with h | ⟨-, h⟩
      · exact .inr ⟨p, List.mem_cons_self, h⟩
      · exact .inl h
    · exact .inr ⟨q, List.mem_cons_of_mem _ hq, h⟩

theorem isSome_get?_mergeAll_of_total (h : (total.params.get? key).isSome = true) :
    ((total.mergeAll plans).params.get? key).isSome = true := by
  induction plans generalizing total with
  | nil => exact h
  | cons p rest ih =>
    refine ih ?_
    rw [merge, Params.get?_union, Option.isSome_or, h, Bool.or_true]

/-- A parameter that some part sets is set in the merge, though perhaps to another value. -/
theorem isSome_get?_mergeAll (hp : p ∈ plans) (h : p.params.get? key = some value) :
    ∃ value', (total.mergeAll plans).params.get? key = some value' := by
  refine Option.isSome_iff_exists.mp ?_
  induction plans generalizing total with
  | nil => cases hp
  | cons q rest ih =>
    rw [mergeAll_cons]
    rcases List.mem_cons.mp hp with rfl | hp
    · refine isSome_get?_mergeAll_of_total ?_
      simp [merge, h]
    · exact ih hp

end Plan

end NetQuery
