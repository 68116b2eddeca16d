import NetQuery.Proofs.Text.Levenshtein
import NetQuery.Query.Hint

namespace NetQuery

namespace Text

theorem hasInfix_iff {needle hay : List Char} : hasInfix needle hay = true ↔ needle <:+: hay := by
  induction hay with
  | nil => simp [hasInfix]
  | cons c hay ih =>
    rw [hasInfix, Bool.or_eq_true, ih, List.isPrefixOf_iff_prefix, List.infix_cons_iff]

theorem contains_iff {s part : String} : contains s part = true ↔ part.toList <:+: s.toList :=
  hasInfix_iff

end Text

section

variable {α : Type} {p : α → Prop} {d : α → Nat} {xs : List α} {x y : α}

/-- Of the elements with the property, the first one whose measure is least. -/
def FirstLeast (p : α → Prop) (d : α → Nat) (xs : List α) (x : α) : Prop :=
  ∃ front back, xs = front ++ x :: back ∧ p x ∧
    (∀ y ∈ front, p y → d x < d y) ∧ ∀ y ∈ back, p y → d x ≤ d y

namespace FirstLeast

theorem mem (h : FirstLeast p d xs x) : x ∈ xs ∧ p x := by
  obtain ⟨front, back, rfl, hp, -⟩ := h
  exact ⟨by simp, hp⟩

theorem le (h : FirstLeast p d xs x) (hy : y ∈ xs) (hp : p y) : d x ≤ d y := by
  obtain ⟨front, back, rfl, -, hfront, hback⟩ := h
  rcases List.mem_append.mp hy with hy | hy
  · exact Nat.le_of_lt (hfront y hy hp)
  · rcases List.mem_cons.mp hy with rfl | hy
    · exact Nat.le_refl _
    · exact hback y hy hp

/-- It stays the first where an element that is no better follows. -/
theorem concat (h : FirstLeast p d xs x) (hy : p y → d x ≤ d y) :
    FirstLeast p d (xs ++ [y]) x := by
  obtain ⟨front, back, rfl, hp, hfront, hback⟩ := h
  refine ⟨front, back ++ [y], by simp, hp, hfront, fun z hz hpz => ?_⟩
  rcases List.mem_append.mp hz with hz | hz
  · exact hback z hz hpz
  · obtain rfl := List.mem_singleton.mp hz
    exact hy hpz

/-- An element that is better than all before it takes its place. -/
theorem last (hp : p x) (h : ∀ y ∈ xs, p y → d x < d y) : FirstLeast p d (xs ++ [x]) x :=
  ⟨xs, [], rfl, hp, h, by simp⟩

/-- No two elements are each no worse than what follows them and better than what is before them. -/
theorem eq_of_cons_eq {back back' between : List α} (hsplit : x :: back = between ++ y :: back')
    (hx : p x) (hy : p y) (hback : ∀ z ∈ back, p z → d x ≤ d z)
    (hbetween : ∀ z ∈ between, p z → d y < d z) : x = y := by
  cases between with
  | nil => exact (List.cons.inj hsplit).1
  | cons z between =>
    obtain ⟨rfl, rfl⟩ := List.cons.inj hsplit
    have hle := hback y (by simp) hy
    have hlt := hbetween x List.mem_cons_self hx
    exact absurd hle (Nat.not_le.mpr hlt)

theorem unique (h : FirstLeast p d xs x) (h' : FirstLeast p d xs y) : x = y := by
  obtain ⟨front, back, rfl, hx, hfront, hback⟩ := h
  obtain ⟨front', back', hsplit, hy, hfront', hback'⟩ := h'
  rcases List.append_eq_append_iff.mp hsplit with ⟨between, rfl, hrest⟩ | ⟨between, rfl, hrest⟩
  · apply eq_of_cons_eq hrest hx hy hback
    intro z hz
    exact hfront' z (List.mem_append_right front hz)
  · symm
    apply eq_of_cons_eq hrest hy hx hback'
    intro z hz
    exact hfront z (List.mem_append_right front' hz)

end FirstLeast

end

namespace Hint

open Text

def distanceTo (name field : String) : Nat :=
  levenshtein name.toList field.toList

/-- Whether the declared field is near the name or has it in it. -/
def Suggests (name field : String) : Prop :=
  distanceTo name field ≤ 2 ∨ name.toList <:+: field.toList

/-- The best field among those that the search has seen. -/
inductive Best (name : String) (seen : List String) : Option (String × Nat) → Prop where
  | nothing (h : ∀ field ∈ seen, ¬ Suggests name field) : Best name seen none
  | kept {field : String} (h : FirstLeast (Suggests name) (distanceTo name) seen field) :
      Best name seen (some (field, distanceTo name field))

variable {name field : String} {seen fields : List String} {best : Option (String × Nat)}

/-- A field that is not near is passed over. -/
theorem Best.pass (h : Best name seen best) (hfield : ¬ Suggests name field) :
    Best name (seen ++ [field]) best := by
  cases h with
  | nothing h =>
    apply Best.nothing
    intro other hother
    rcases List.mem_append.mp hother with hother | hother
    · exact h other hother
    · obtain rfl := List.mem_singleton.mp hother
      exact hfield
  | kept h => exact .kept (h.concat fun hp => absurd hp hfield)

/-- A field that is near is kept where it is nearer than those before it. -/
theorem Best.weigh (h : Best name seen best) (hfield : Suggests name field) :
    Best name (seen ++ [field]) (nearer best (field, distanceTo name field)) := by
  cases h with
  | nothing h =>
    apply Best.kept
    apply FirstLeast.last hfield
    intro other hother hp
    exact absurd hp (h other hother)
  | @kept chosen h =>
    simp only [nearer]
    split
    · next hlt =>
      apply Best.kept
      apply FirstLeast.last hfield
      intro other hother hp
      exact Nat.lt_of_lt_of_le hlt (h.le hother hp)
    · next hnot =>
      apply Best.kept
      apply h.concat
      intro _
      exact Nat.not_lt.mp hnot

def weighed (name : String) (best : Option (String × Nat)) (field : String) :
    Option (String × Nat) :=
  if editDistance name field ≤ closeDistance || contains field name then
    nearer best (field, editDistance name field)
  else best

theorem Best.weighed (h : Best name seen best) (field : String) :
    Best name (seen ++ [field]) (Hint.weighed name best field) := by
  have hsuggests : (editDistance name field ≤ closeDistance || contains field name) = true ↔
      Suggests name field := by
    rw [Bool.or_eq_true, decide_eq_true_iff, contains_iff, editDistance_eq_levenshtein]
    rfl
  unfold Hint.weighed
  split
  · next hclose =>
    rw [editDistance_eq_levenshtein]
    exact h.weigh (hsuggests.mp hclose)
  · next hfar => exact h.pass fun hfield => hfar (hsuggests.mpr hfield)

theorem Best.foldl (h : Best name seen best) (fields : List String) :
    Best name (seen ++ fields) (fields.foldl (Hint.weighed name) best) := by
  induction fields generalizing seen best with
  | nil => simpa using h
  | cons field fields ih => simpa using ih (h.weighed field)

theorem Best.eq_some_iff (h : Best name seen best) : best.map (·.1) = some field ↔
    FirstLeast (Suggests name) (distanceTo name) seen field := by
  cases h with
  | nothing h =>
    refine iff_of_false (by simp) fun hleast => ?_
    obtain ⟨hmem, hp⟩ := hleast.mem
    exact h field hmem hp
  | @kept chosen h =>
    rw [Option.map_some, Option.some.injEq]
    constructor
    · rintro rfl
      exact h
    · exact h.unique

theorem Best.eq_none_iff (h : Best name seen best) : best.map (·.1) = none ↔
    ∀ field ∈ seen, ¬ Suggests name field := by
  cases h with
  | nothing h => exact iff_of_true rfl h
  | kept h =>
    obtain ⟨hmem, hp⟩ := h.mem
    exact iff_of_false (by simp) fun hnone => hnone _ hmem hp

theorem closestField?_eq (entity : Entity) (name : String) : closestField? entity name =
    (entity.fieldNames.foldl (weighed (lowerAscii name)) none).map (·.1) := by
  unfold closestField?
  simp only
  rw [List.foldl_filter, List.foldl_map]
  rfl

theorem best_closestField (entity : Entity) (name : String) :
    Best (lowerAscii name) entity.fieldNames
      (entity.fieldNames.foldl (weighed (lowerAscii name)) none) := by
  have hnothing : Best (lowerAscii name) [] none := .nothing (by simp)
  exact hnothing.foldl entity.fieldNames

end Hint

open Text Hint

/-- The distance of two texts is the least number of edits that turn one into the other, with the
laws of a distance. The field that is suggested for a name is, among the declared fields that are at
most two edits away from its lower-case form or have this in them, the first one of least distance;
none is only where there is no such field. -/
theorem Hint.closestField?_is_first_of_nearest :
    (∀ s t, editDistance s t = levenshtein s.toList t.toList) ∧
    (∀ s t, Edits s.toList t.toList (editDistance s t) ∧
      ∀ n, Edits s.toList t.toList n → editDistance s t ≤ n) ∧
    (∀ s t, editDistance s t = editDistance t s) ∧
    (∀ s t, editDistance s t = 0 ↔ s = t) ∧
    (∀ s t u, editDistance s u ≤ editDistance s t + editDistance t u) ∧
    ∀ entity name,
      (∀ field, closestField? entity name = some field ↔ FirstLeast (Suggests (lowerAscii name))
        (distanceTo (lowerAscii name)) entity.fieldNames field) ∧
      (closestField? entity name = none ↔
        ∀ field ∈ entity.fieldNames, ¬ Suggests (lowerAscii name) field) := by
  refine ⟨editDistance_eq_levenshtein, fun s t => ?_, fun s t => ?_, fun s t => ?_, fun s t u => ?_,
    fun entity name => ?_⟩
  · rw [editDistance_eq_levenshtein]
    exact ⟨edits_levenshtein _ _, fun n hn => hn.levenshtein_le⟩
  · rw [editDistance_eq_levenshtein, editDistance_eq_levenshtein, levenshtein_comm]
  · rw [editDistance_eq_levenshtein, levenshtein_eq_zero, String.toList_inj]
  · simp only [editDistance_eq_levenshtein]
    exact levenshtein_triangle _ _ _
  · have hbest := best_closestField entity name
    rw [closestField?_eq]
    exact ⟨fun field => hbest.eq_some_iff, hbest.eq_none_iff⟩

end NetQuery
