import NetQuery.Text.EditDistance

namespace NetQuery.Text

/-- That many insertions, deletions and replacements turn the one list into the other. -/
inductive Edits {α : Type} : List α → List α → Nat → Prop where
  | nil : Edits [] [] 0
  | keep {s t : List α} {n : Nat} (a : α) (h : Edits s t n) : Edits (a :: s) (a :: t) n
  | insert {s t : List α} {n : Nat} (b : α) (h : Edits s t n) : Edits s (b :: t) (n + 1)
  | delete {s t : List α} {n : Nat} (a : α) (h : Edits s t n) : Edits (a :: s) t (n + 1)
  | replace {s t : List α} {n : Nat} (a b : α) (h : Edits s t n) : Edits (a :: s) (b :: t) (n + 1)

variable {α : Type} {a b : α} {s t u s' t' : List α} {m n : Nat}

namespace Edits

theorem refl (s : List α) : Edits s s 0 := by
  induction s with
  | nil => exact .nil
  | cons a s ih => exact .keep a ih

/-- Edits are taken back by as many edits. -/
theorem symm (h : Edits s t n) : Edits t s n := by
  induction h with
  | nil => exact .nil
  | keep a _ ih => exact .keep a ih
  | insert b _ ih => exact .delete b ih
  | delete a _ ih => exact .insert a ih
  | replace a b _ ih => exact .replace b a ih

theorem append (h : Edits s t m) (h' : Edits s' t' n) : Edits (s ++ s') (t ++ t') (n + m) := by
  induction h with
  | nil => exact h'
  | keep a _ ih => exact .keep a ih
  | insert b _ ih => exact .insert b ih
  | delete a _ ih => exact .delete a ih
  | replace a b _ ih => exact .replace a b ih

/-- Edits may be made from the end. -/
theorem reverse (h : Edits s t n) : Edits s.reverse t.reverse n := by
  induction h with
  | nil => exact .nil
  | keep a _ ih =>
    rw [List.reverse_cons, List.reverse_cons]
    simpa using ih.append (.keep a .nil)
  | insert b _ ih =>
    rw [List.reverse_cons]
    simpa [Nat.add_comm] using ih.append (.insert b .nil)
  | delete a _ ih =>
    rw [List.reverse_cons]
    simpa [Nat.add_comm] using ih.append (.delete a .nil)
  | replace a b _ ih =>
    rw [List.reverse_cons, List.reverse_cons]
    simpa [Nat.add_comm] using ih.append (.replace a b .nil)

theorem eq_of_zero (h : Edits s t 0) : s = t := by
  generalize hn : 0 = n at h
  induction h with
  | nil => rfl
  | keep a _ ih => rw [ih hn]
  | insert => cases hn
  | delete => cases hn
  | replace => cases hn

/-- Edits made one after another come to no more edits at once. -/
theorem trans {s t u : List α} {m n : Nat} (h : Edits s t m) (h' : Edits t u n) :
    ∃ k, k ≤ m + n ∧ Edits s u k := by
  match h, h' with
  | h, .nil => exact ⟨m, Nat.le_refl m, h⟩
  | .nil, h' => exact ⟨n, by omega, h'⟩
  | .delete a h, h' =>
    obtain ⟨k, hk, hsu⟩ := trans h h'
    exact ⟨k + 1, by omega, .delete a hsu⟩
  | h, .insert b h' =>
    obtain ⟨k, hk, hsu⟩ := trans h h'
    exact ⟨k + 1, by omega, .insert b hsu⟩
  | .insert b h, .keep _ h' =>
    obtain ⟨k, hk, hsu⟩ := trans h h'
    exact ⟨k + 1, by omega, .insert b hsu⟩
  | .insert _ h, .delete _ h' =>
    obtain ⟨k, hk, hsu⟩ := trans h h'
    exact ⟨k, by omega, hsu⟩
  | .insert _ h, .replace _ c h' =>
    obtain ⟨k, hk, hsu⟩ := trans h h'
    exact ⟨k + 1, by omega, .insert c hsu⟩
  | .keep a h, .keep _ h' =>
    obtain ⟨k, hk, hsu⟩ := trans h h'
    exact ⟨k, by omega, .keep a hsu⟩
  | .keep a h, .delete _ h' =>
    obtain ⟨k, hk, hsu⟩ := trans h h'
    exact ⟨k + 1, by omega, .delete a hsu⟩
  | .keep a h, .replace _ c h' =>
    obtain ⟨k, hk, hsu⟩ := trans h h'
    exact ⟨k + 1, by omega, .replace a c hsu⟩
  | .replace a b h, .keep _ h' =>
    obtain ⟨k, hk, hsu⟩ := trans h h'
    exact ⟨k + 1, by omega, .replace a b hsu⟩
  | .replace a _ h, .delete _ h' =>
    obtain ⟨k, hk, hsu⟩ := trans h h'
    exact ⟨k + 1, by omega, .delete a hsu⟩
  | .replace a _ h, .replace _ c h' =>
    obtain ⟨k, hk, hsu⟩ := trans h h'
    exact ⟨k + 1, by omega, .replace a c hsu⟩
termination_by s.length + t.length + u.length

theorem nil_left (t : List α) : Edits [] t t.length := by
  induction t with
  | nil => exact .nil
  | cons b t ih => exact .insert b ih

theorem length_le (h : Edits s t n) : t.length ≤ s.length + n := by
  induction h with
  | nil => exact Nat.le_refl _
  | _ =>
    simp only [List.length_cons]
    omega

/-- A common first element need not be touched. -/
theorem cancel (h : Edits (a :: s) (a :: t) n) : ∃ m, m ≤ n ∧ Edits s t m := by
  cases h with
  | keep _ h => exact ⟨n, Nat.le_refl n, h⟩
  | @insert _ _ n _ h =>
    obtain ⟨k, hk, hst⟩ := (insert a (refl s)).trans h
    exact ⟨k, by omega, hst⟩
  | @delete _ _ n _ h =>
    obtain ⟨k, hk, hst⟩ := h.trans (.delete a (refl t))
    exact ⟨k, by omega, hst⟩
  | @replace _ _ n _ _ h => exact ⟨n, Nat.le_succ n, h⟩

end Edits

section

variable [DecidableEq α]

/-- Equal first elements are kept; else one of them is replaced, deleted or inserted, as is best. -/
def levenshtein : List α → List α → Nat
  | [], t => t.length
  | s, [] => s.length
  | a :: s, b :: t =>
    if a = b then levenshtein s t
    else 1 + min (levenshtein s t) (min (levenshtein s (b :: t)) (levenshtein (a :: s) t))
termination_by s t => s.length + t.length

@[simp] theorem levenshtein_nil_left (t : List α) : levenshtein [] t = t.length := by
  rw [levenshtein]

@[simp] theorem levenshtein_nil_right (s : List α) : levenshtein s [] = s.length := by
  cases s <;> simp [levenshtein]

theorem levenshtein_cons (a b : α) (s t : List α) : levenshtein (a :: s) (b :: t) =
    if a = b then levenshtein s t
    else 1 + min (levenshtein s t) (min (levenshtein s (b :: t)) (levenshtein (a :: s) t)) := by
  rw [levenshtein]

/-- As many edits as the distance tells do. -/
theorem edits_levenshtein (s t : List α) : Edits s t (levenshtein s t) := by
  fun_induction levenshtein s t with
  | case1 t => exact Edits.nil_left t
  | case2 s => exact (Edits.nil_left s).symm
  | case3 s b t ih => exact .keep b ih
  | case4 a s b t _ ih₁ ih₂ ih₃ =>
    rw [Nat.add_comm]
    rcases Nat.le_total (levenshtein s t) (min (levenshtein s (b :: t)) (levenshtein (a :: s) t))
      with h | h
    · rw [Nat.min_eq_left h]
      exact .replace a b ih₁
    · rw [Nat.min_eq_right h]
      rcases Nat.le_total (levenshtein s (b :: t)) (levenshtein (a :: s) t) with h | h
      · rw [Nat.min_eq_left h]
        exact .delete a ih₂
      · rw [Nat.min_eq_right h]
        exact .insert b ih₃

/-- Fewer edits do not. -/
theorem Edits.levenshtein_le (h : Edits s t n) : levenshtein s t ≤ n := by
  fun_induction levenshtein s t generalizing n with
  | case1 t => simpa using h.length_le
  | case2 s => simpa using h.symm.length_le
  | case3 a s t ih =>
    obtain ⟨m, hm, hst⟩ := h.cancel
    exact Nat.le_trans (ih hst) hm
  | case4 a s b t hne ih₁ ih₂ ih₃ =>
    cases h with
    | keep => exact absurd rfl hne
    | insert _ h =>
      have := ih₃ h
      omega
    | delete _ h =>
      have := ih₂ h
      omega
    | replace _ _ h =>
      have := ih₁ h
      omega

/-- What edits turn into edits of other lists bounds the distance of these. -/
theorem levenshtein_le_of_edits (h : ∀ {n}, Edits s t n → Edits s' t' n) :
    levenshtein s' t' ≤ levenshtein s t :=
  (h (edits_levenshtein s t)).levenshtein_le

theorem levenshtein_comm (s t : List α) : levenshtein s t = levenshtein t s :=
  Nat.le_antisymm (levenshtein_le_of_edits Edits.symm) (levenshtein_le_of_edits Edits.symm)

theorem levenshtein_eq_zero {s t : List α} : levenshtein s t = 0 ↔ s = t := by
  constructor
  · intro h
    exact (h ▸ edits_levenshtein s t).eq_of_zero
  · rintro rfl
    exact Nat.le_zero.mp (Edits.refl s).levenshtein_le

theorem levenshtein_triangle (s t u : List α) :
    levenshtein s u ≤ levenshtein s t + levenshtein t u := by
  obtain ⟨k, hk, hsu⟩ := (edits_levenshtein s t).trans (edits_levenshtein t u)
  exact Nat.le_trans hsu.levenshtein_le hk

theorem levenshtein_reverse (s t : List α) : levenshtein s.reverse t.reverse = levenshtein s t := by
  refine Nat.le_antisymm (levenshtein_le_of_edits Edits.reverse)
    (levenshtein_le_of_edits fun h => ?_)
  simpa using h.reverse

/-- The distance may be computed from the end. -/
theorem levenshtein_concat (a b : α) (s t : List α) : levenshtein (s ++ [a]) (t ++ [b]) =
    if a = b then levenshtein s t
    else 1 + min (levenshtein s t) (min (levenshtein s (t ++ [b])) (levenshtein (s ++ [a]) t)) := by
  rw [← levenshtein_reverse (s ++ [a]), ← levenshtein_reverse s t,
    ← levenshtein_reverse s (t ++ [b]), ← levenshtein_reverse (s ++ [a]) t]
  simp only [List.reverse_append, List.reverse_singleton, List.singleton_append, levenshtein_cons]

end

/-- The distances of `s` to `t` and to `t` with more and more of `bs` behind it. -/
def distances (s t : List Char) : List Char → List Nat
  | [] => [levenshtein s t]
  | b :: bs => levenshtein s t :: distances s (t ++ [b]) bs

theorem distances_nil_left (t bs : List Char) :
    distances [] t bs = List.range' t.length (bs.length + 1) := by
  induction bs generalizing t with
  | nil => simp [distances]
  | cons b bs ih => simp [distances, ih, List.range'_succ]

theorem distances_eq_cons (s t bs : List Char) :
    distances s t bs = levenshtein s t :: (distances s t bs).tail := by
  cases bs <;> rfl

theorem getLastD_distances (s t bs : List Char) (n : Nat) :
    (distances s t bs).getLastD n = levenshtein s (t ++ bs) := by
  induction bs generalizing t n with
  | nil => simp [distances]
  | cons b bs ih => rw [distances, List.getLastD_cons, ih, List.append_assoc, List.singleton_append]

/-- The rest of a row holds the distances of the next beginning of a text. -/
theorem editRowFrom_distances (a : Char) (s t bs : List Char) :
    editRowFrom a (levenshtein s t) (levenshtein (s ++ [a]) t) bs (distances s t bs).tail =
      (distances (s ++ [a]) t bs).tail := by
  induction bs generalizing t with
  | nil => rfl
  | cons b bs ih =>
    have hentry : (if (a == b) = true then levenshtein s t
        else 1 + min (min (levenshtein s t) (levenshtein s (t ++ [b])))
          (levenshtein (s ++ [a]) t)) =
          levenshtein (s ++ [a]) (t ++ [b]) := by
      simp only [levenshtein_concat, beq_iff_eq, Nat.min_assoc]
    rw [distances, distances, List.tail_cons, List.tail_cons, distances_eq_cons, editRowFrom]
    simp only [hentry, ih]
    rw [← distances_eq_cons]

/-- A row of the table holds the distances of a beginning of one text to all those of the other. -/
theorem editRow_distances (a : Char) (s bs : List Char) :
    editRow bs (distances s [] bs) a = distances (s ++ [a]) [] bs := by
  rw [distances_eq_cons, distances_eq_cons (s ++ [a]), ← editRowFrom_distances]
  simp [editRow]

theorem foldl_editRow_distances (s u bs : List Char) :
    u.foldl (editRow bs) (distances s [] bs) = distances (s ++ u) [] bs := by
  induction u generalizing s with
  | nil => simp
  | cons a u ih =>
    rw [List.foldl_cons, editRow_distances, ih, List.append_assoc, List.singleton_append]

/-- The table ends with the distance of the two texts. -/
theorem editDistance_eq_levenshtein (s t : String) :
    editDistance s t = levenshtein s.toList t.toList := by
  have hfirst : List.range (t.toList.length + 1) = distances [] [] t.toList := by
    rw [distances_nil_left, List.length_nil, List.range_eq_range']
  unfold editDistance
  simp only
  rw [hfirst, foldl_editRow_distances, getLastD_distances, List.nil_append, List.nil_append]

end NetQuery.Text
