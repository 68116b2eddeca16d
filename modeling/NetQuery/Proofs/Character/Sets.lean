import NetQuery.Character.Set
import NetQuery.Text.Ranges

namespace NetQuery.CharSet

variable {s t : CharSet} {ranges rs ss earlier : List (Nat × Nat)} {r x : Nat × Nat} {n : Nat}

def Covers (ranges : List (Nat × Nat)) (n : Nat) : Prop :=
  ∃ r ∈ ranges, r.1 ≤ n ∧ n ≤ r.2

def InOrder (ranges : List (Nat × Nat)) : Prop :=
  ranges.Pairwise (·.1 ≤ ·.1)

theorem hasCode_iff : s.hasCode n = true ↔ Covers s.ranges n := by
  simp [hasCode, Covers]

theorem covers_cons : Covers (r :: ranges) n ↔ (r.1 ≤ n ∧ n ≤ r.2) ∨ Covers ranges n := by
  simp [Covers]

theorem covers_of_mem_iff (h : ∀ r, r ∈ ss ↔ r ∈ ranges) : Covers ss n ↔ Covers ranges n := by
  simp [Covers, h]

theorem mem_mergeOne {rest : List (Nat × Nat) → List (Nat × Nat)}
    (hrest : ∀ ss, x ∈ rest ss ↔ x ∈ rs ∨ x ∈ ss) (ss : List (Nat × Nat)) :
    x ∈ mergeOne r rest ss ↔ x ∈ r :: rs ∨ x ∈ ss := by
  induction ss with
  | nil => simp [mergeOne, hrest]
  | cons s ss ih =>
    rw [mergeOne]
    split
    · rw [List.mem_cons, ih, List.mem_cons (b := s)]
      exact or_left_comm
    · rw [List.mem_cons, hrest, List.mem_cons (b := r), or_assoc]

theorem mem_merge : x ∈ merge rs ss ↔ x ∈ rs ∨ x ∈ ss := by
  induction rs generalizing ss with
  | nil => simp [merge]
  | cons r rs ih => exact mem_mergeOne (fun ss => ih) ss

theorem inOrder_mergeOne (hrs : InOrder (r :: rs))
    (hmerge : ∀ ss, InOrder ss → InOrder (merge rs ss)) (hss : InOrder ss) :
    InOrder (mergeOne r (merge rs) ss) := by
  obtain ⟨hfirst, -⟩ := List.pairwise_cons.mp hrs
  induction ss with
  | nil =>
    apply List.pairwise_cons.mpr
    refine ⟨?_, hmerge [] hss⟩
    intro x hx
    rcases mem_merge.mp hx with hx | hx
    · exact hfirst x hx
    · cases hx
  | cons s ss ih =>
    obtain ⟨hleast, hrest⟩ := List.pairwise_cons.mp hss
    rw [mergeOne]
    split
    · next hlt =>
      apply List.pairwise_cons.mpr
      refine ⟨?_, ih hrest⟩
      intro x hx
      rcases (mem_mergeOne (fun ss => mem_merge) ss).mp hx with hx | hx
      · rcases List.mem_cons.mp hx with rfl | hx
        · exact Nat.le_of_lt hlt
        · exact Nat.le_trans (Nat.le_of_lt hlt) (hfirst x hx)
      · exact hleast x hx
    · next hle =>
      apply List.pairwise_cons.mpr
      refine ⟨?_, hmerge _ hss⟩
      intro x hx
      rcases mem_merge.mp hx with hx | hx
      · exact hfirst x hx
      · rcases List.mem_cons.mp hx with rfl | hx
        · exact Nat.le_of_not_lt hle
        · exact Nat.le_trans (Nat.le_of_not_lt hle) (hleast x hx)

theorem inOrder_merge (hrs : InOrder rs) (hss : InOrder ss) : InOrder (merge rs ss) := by
  induction rs generalizing ss with
  | nil => exact hss
  | cons r rs ih =>
    exact inOrder_mergeOne hrs (fun ss => ih (List.pairwise_cons.mp hrs).2) hss

theorem covers_push (h : ∀ last ∈ earlier.head?, last.1 ≤ r.1) :
    Covers (push earlier r) n ↔ Covers earlier n ∨ (r.1 ≤ n ∧ n ≤ r.2) := by
  cases earlier with
  | nil => simp [push, Covers]
  | cons last rest =>
    have hfirst := h last rfl
    rw [push]
    split
    · next htouch =>
      have hboth : last.1 ≤ n ∧ n ≤ max last.2 r.2 ↔
          (last.1 ≤ n ∧ n ≤ last.2) ∨ (r.1 ≤ n ∧ n ≤ r.2) := by
        omega
      rw [covers_cons, covers_cons, or_right_comm, ← hboth]
    · rw [covers_cons, or_comm]

theorem head?_push (h : ∀ last ∈ earlier.head?, last.1 ≤ r.1) :
    ∀ last ∈ (push earlier r).head?, last.1 ≤ r.1 := by
  cases earlier with
  | nil => simp [push]
  | cons last rest =>
    rw [push]
    split
    · simpa using h
    · simp

theorem covers_foldl_push (hranges : InOrder ranges)
    (h : ∀ last ∈ earlier.head?, ∀ r ∈ ranges, last.1 ≤ r.1) :
    Covers (ranges.foldl push earlier) n ↔ Covers earlier n ∨ Covers ranges n := by
  induction ranges generalizing earlier with
  | nil => simp [Covers]
  | cons r ranges ih =>
    obtain ⟨hfirst, hrest⟩ := List.pairwise_cons.mp hranges
    have hlast : ∀ last ∈ earlier.head?, last.1 ≤ r.1 := fun last hmem =>
      h last hmem r List.mem_cons_self
    rw [List.foldl_cons, ih hrest, covers_push hlast, covers_cons, or_assoc]
    intro last hmem x hx
    exact Nat.le_trans (head?_push hlast last hmem) (hfirst x hx)

theorem pairwise_push (h : ∀ x ∈ earlier, x.1 ≤ r.1) (hearlier : earlier.Pairwise (·.1 ≥ ·.1)) :
    (push earlier r).Pairwise (·.1 ≥ ·.1) ∧ ∀ x ∈ push earlier r, x.1 ≤ r.1 := by
  cases earlier with
  | nil => simp [push]
  | cons last rest =>
    rw [push]
    split
    · rw [List.pairwise_cons, List.forall_mem_cons] at *
      exact ⟨hearlier, h⟩
    · exact ⟨List.pairwise_cons.mpr ⟨h, hearlier⟩, List.forall_mem_cons.mpr ⟨Nat.le_refl _, h⟩⟩

theorem pairwise_foldl_push (hranges : InOrder ranges) (h : ∀ x ∈ earlier, ∀ r ∈ ranges, x.1 ≤ r.1)
    (hearlier : earlier.Pairwise (·.1 ≥ ·.1)) :
    (ranges.foldl push earlier).Pairwise (·.1 ≥ ·.1) := by
  induction ranges generalizing earlier with
  | nil => exact hearlier
  | cons r ranges ih =>
    obtain ⟨hfirst, hrest⟩ := List.pairwise_cons.mp hranges
    obtain ⟨hpush, hlast⟩ :=
      pairwise_push (fun x hx => h x hx r List.mem_cons_self) hearlier
    exact ih hrest (fun x hx y hy => Nat.le_trans (hlast x hx) (hfirst y hy)) hpush

theorem hasCode_joined (h : InOrder ranges) :
    (joined ranges).hasCode n = true ↔ Covers ranges n := by
  rw [hasCode_iff, joined, covers_of_mem_iff fun _ => List.mem_reverse, covers_foldl_push h]
  · simp [Covers]
  · simp

theorem inOrder_joined (h : InOrder ranges) : InOrder (joined ranges).ranges := by
  unfold InOrder joined
  rw [List.pairwise_reverse]
  exact pairwise_foldl_push h (by simp) List.Pairwise.nil

theorem inOrder_singleton (c : Char) : InOrder (singleton c).ranges :=
  List.pairwise_singleton _ _

theorem hasCode_singleton {c : Char} : (singleton c).hasCode n = true ↔ n = c.toNat := by
  simp only [hasCode, singleton, List.any_cons, List.any_nil, Bool.or_false, Bool.and_eq_true,
    decide_eq_true_eq]
  omega

theorem contains_singleton_iff {c d : Char} : (singleton c).contains d = true ↔ d = c := by
  rw [contains, hasCode_singleton, Char.toNat_inj]

/-- What is single in a set that has a character is that character. -/
theorem contains_iff_of_single? {c d x : Char} (h : s.contains c = true)
    (hsingle : s.single? = some d) : s.contains x = true ↔ x = d := by
  obtain ⟨ranges⟩ := s
  unfold single? at hsingle
  split at hsingle
  · next first last hranges =>
    split at hsingle
    · next heq =>
      subst heq
      cases hsingle
      obtain rfl : ranges = [(first, first)] := hranges
      have hfirst : c.toNat = first := by
        simp only [contains, hasCode, List.any_cons, List.any_nil, Bool.or_false, Bool.and_eq_true,
          decide_eq_true_eq] at h
        omega
      rw [← hfirst, Char.ofNat_toNat]
      exact contains_singleton_iff
    · cases hsingle
  · cases hsingle

theorem hasCode_union (hs : InOrder s.ranges) (ht : InOrder t.ranges) :
    (s.union t).hasCode n = true ↔ s.hasCode n = true ∨ t.hasCode n = true := by
  rw [union, hasCode_joined (inOrder_merge hs ht), hasCode_iff, hasCode_iff]
  simp [Covers, mem_merge, or_and_right, exists_or]

theorem inOrder_union (hs : InOrder s.ranges) (ht : InOrder t.ranges) :
    InOrder (s.union t).ranges :=
  inOrder_joined (inOrder_merge hs ht)

theorem mem_foldr_merge : x ∈ ranges.foldr (fun r later => merge [r] later) [] ↔ x ∈ ranges := by
  induction ranges with
  | nil => rfl
  | cons r ranges ih => simp [mem_merge, ih]

theorem inOrder_foldr_merge (ranges : List (Nat × Nat)) :
    InOrder (ranges.foldr (fun r later => merge [r] later) []) := by
  induction ranges with
  | nil => exact List.Pairwise.nil
  | cons r ranges ih => exact inOrder_merge (List.pairwise_singleton _ r) ih

theorem inOrder_ofRanges (ranges : List (Nat × Nat)) : InOrder (ofRanges ranges).ranges :=
  inOrder_joined (inOrder_foldr_merge _)

theorem toNat_valid (c : Char) : c.toNat < 0xd800 ∨ (0xdfff < c.toNat ∧ c.toNat < 0x110000) :=
  c.valid

/-- Nothing is lost where a range is cut at the surrogates. -/
theorem covers_withoutSurrogates {c : Char} :
    Covers (withoutSurrogates r) c.toNat ↔ r.1 ≤ c.toNat ∧ c.toNat ≤ r.2 := by
  have hvalid := toNat_valid c
  simp only [Covers, withoutSurrogates, firstSurrogate, lastSurrogate]
  simp only [List.mem_filter, List.mem_cons, List.not_mem_nil, or_false, decide_eq_true_eq]
  constructor
  · rintro ⟨x, ⟨rfl | rfl, -⟩, hlow, hhigh⟩
    · dsimp only at hlow hhigh
      omega
    · dsimp only at hlow hhigh
      omega
  · rintro ⟨hlow, hhigh⟩
    rcases hvalid with hbelow | habove
    · exact ⟨_, ⟨.inl rfl, by dsimp only; omega⟩, by dsimp only; omega, by dsimp only; omega⟩
    · exact ⟨_, ⟨.inr rfl, by dsimp only; omega⟩, by dsimp only; omega, by dsimp only; omega⟩

theorem contains_ofRanges (ranges : List (Nat × Nat)) (c : Char) :
    (ofRanges ranges).contains c = Text.inRanges ranges c := by
  apply Bool.eq_iff_iff.mpr
  rw [contains, ofRanges, hasCode_joined (inOrder_foldr_merge _), Text.inRanges_iff]
  simp only [Covers, mem_foldr_merge, List.mem_flatMap]
  constructor
  · rintro ⟨x, ⟨r, hr, hx⟩, hcode⟩
    exact ⟨r, hr, covers_withoutSurrogates.mp ⟨x, hx, hcode⟩⟩
  · rintro ⟨r, hr, hcode⟩
    obtain ⟨x, hx, hcode⟩ := covers_withoutSurrogates.mpr hcode
    exact ⟨x, ⟨r, hr, hx⟩, hcode⟩

end NetQuery.CharSet
