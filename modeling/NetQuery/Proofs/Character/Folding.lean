import Mathlib.Data.List.Chain
import NetQuery.Character.Folding
import NetQuery.Proofs.Character.Sets

namespace NetQuery

namespace Text

open CharSet

variable {r r' : CaseRun} {n m k : Nat} {c : Char}

def CaseRun.Precedes (r r' : CaseRun) : Prop :=
  r.last < r'.first ∧ r'.first ≤ r'.last

instance : DecidableRel CaseRun.Precedes := fun _ _ => inferInstanceAs (Decidable (_ ∧ _))

instance : Trans CaseRun.Precedes CaseRun.Precedes CaseRun.Precedes where
  trans h h' := ⟨Nat.lt_trans h.1 (Nat.lt_of_le_of_lt h.2 h'.1), h'.2⟩

/-- Whether no image of a run is a code point of another: they lie in different places, or one of
the two has even code points only and the other odd ones. -/
def CaseRun.misses (r r' : CaseRun) : Bool :=
  (r.target + (r.last - r.first)).blt r'.first || (r'.last.blt r.target ||
    (r'.step == 2 && (r.step == 2 || r.first == r.last) && (r.target + r'.first) % 2 == 1))

/-- Runs have code points, and their images are characters. -/
def CaseRun.isProper (r : CaseRun) : Bool :=
  0 < r.step && r.first ≤ r.last &&
    (r.target + (r.last - r.first) < 0xd800 ||
      (0xdfff < r.target && r.target + (r.last - r.first) < 0x110000))

theorem foldingRuns_isChain : foldingRuns.IsChain CaseRun.Precedes := by
  decide +kernel

theorem foldingRuns_miss : foldingRuns.all (fun r => foldingRuns.all r.misses) = true := by
  decide +kernel

theorem foldingRuns_proper : foldingRuns.all CaseRun.isProper = true := by
  decide

theorem CaseRun.covers_iff :
    r.covers n = true ↔ r.first ≤ n ∧ n ≤ r.last ∧ (n - r.first) % r.step = 0 := by
  simp only [covers, Bool.and_eq_true, decide_eq_true_eq, beq_iff_eq, and_assoc]

theorem eq_of_covers (hr : r ∈ foldingRuns) (hr' : r' ∈ foldingRuns) (h : r.covers n = true)
    (h' : r'.covers n = true) : r = r' := by
  let apart (r r' : CaseRun) : Prop := r.last < r'.first ∨ r'.last < r.first
  have hsymm : Std.Symm apart := ⟨fun _ _ => Or.symm⟩
  have hapart : foldingRuns.Pairwise apart :=
    foldingRuns_isChain.pairwise.imp fun hprecedes => .inl hprecedes.1
  obtain ⟨hlow, hhigh, -⟩ := CaseRun.covers_iff.mp h
  obtain ⟨hlow', hhigh', -⟩ := CaseRun.covers_iff.mp h'
  apply Classical.byContradiction
  intro hne
  rcases hapart.forall hr hr' hne with hlt | hlt <;> omega

/-- No image is a code point of a run. -/
theorem not_covers_image (hr : r ∈ foldingRuns) (hr' : r' ∈ foldingRuns) (h : r.covers n = true) :
    r'.covers (r.target + (n - r.first)) = false := by
  have hmiss := List.all_eq_true.mp (List.all_eq_true.mp foldingRuns_miss r hr) r' hr'
  obtain ⟨hlow, hhigh, hstep⟩ := CaseRun.covers_iff.mp h
  rw [Bool.eq_false_iff, Ne, CaseRun.covers_iff]
  rintro ⟨hlow', hhigh', hstep'⟩
  simp only [CaseRun.misses, Bool.or_eq_true, Bool.and_eq_true, beq_iff_eq, Nat.blt_eq] at hmiss
  rcases hmiss with hbelow | habove | ⟨⟨htwo', htwo | hsingle⟩, hodd⟩
  · omega
  · omega
  · rw [htwo] at hstep
    rw [htwo'] at hstep'
    omega
  · rw [htwo'] at hstep'
    omega

theorem mem_foldedPairs (hr : r ∈ foldingRuns) :
    (n, m) ∈ foldedPairs r ↔ r.covers n = true ∧ m = r.target + (n - r.first) := by
  have hproper := List.all_eq_true.mp foldingRuns_proper r hr
  simp only [CaseRun.isProper, Bool.and_eq_true, decide_eq_true_eq] at hproper
  obtain ⟨⟨hstep, horder⟩, -⟩ := hproper
  simp only [foldedPairs, List.mem_map, List.mem_range, Prod.mk.injEq, CaseRun.covers_iff]
  constructor
  · rintro ⟨k, hk, rfl, rfl⟩
    have hle : k * r.step ≤ r.last - r.first :=
      (Nat.le_div_iff_mul_le hstep).mp (Nat.le_of_lt_succ hk)
    rw [Nat.mul_comm] at hle
    rw [Nat.add_sub_cancel_left]
    exact ⟨⟨Nat.le_add_right _ _, by omega, Nat.mul_mod_right _ _⟩, rfl⟩
  · rintro ⟨⟨hlow, hhigh, hmod⟩, rfl⟩
    have hexact : r.step * ((n - r.first) / r.step) = n - r.first :=
      Nat.mul_div_cancel' (Nat.dvd_of_mod_eq_zero hmod)
    refine ⟨(n - r.first) / r.step, ?_, ?_, ?_⟩
    · exact Nat.lt_succ_of_le (Nat.div_le_div_right (by omega))
    · omega
    · rw [hexact]

/-- Whether a code point has another one as its folded form. -/
def FoldsTo (n m : Nat) : Prop :=
  ∃ r ∈ foldingRuns, (n, m) ∈ foldedPairs r

theorem FoldsTo.not_foldsTo (h : FoldsTo n m) : ¬ FoldsTo m k := by
  obtain ⟨r, hr, hpair⟩ := h
  obtain ⟨hcovers, rfl⟩ := (mem_foldedPairs hr).mp hpair
  rintro ⟨r', hr', hagain⟩
  have hcovers' := ((mem_foldedPairs hr').mp hagain).1
  rw [not_covers_image hr hr' hcovers] at hcovers'
  cases hcovers'

theorem toNat_ofNat_of_isValidChar (h : n.isValidChar) : (Char.ofNat n).toNat = n := by
  rw [Char.ofNat, dif_pos h]
  rfl

/-- Whether the folded form of a character is another one. -/
def Folds (c : Char) : Prop :=
  ∃ m, FoldsTo c.toNat m

theorem FoldsTo.toNat_foldCase (h : FoldsTo c.toNat m) : (foldCase c).toNat = m := by
  obtain ⟨r, hr, hpair⟩ := h
  obtain ⟨hcovers, rfl⟩ := (mem_foldedPairs hr).mp hpair
  have hproper := List.all_eq_true.mp foldingRuns_proper r hr
  simp only [CaseRun.isProper, Bool.and_eq_true, Bool.or_eq_true, decide_eq_true_eq] at hproper
  obtain ⟨hlow, hhigh, -⟩ := CaseRun.covers_iff.mp hcovers
  rw [foldCase, mapRuns]
  cases hfound : foldingRuns.find? (·.covers c.toNat) with
  | none => exact absurd hcovers (List.find?_eq_none.mp hfound r hr)
  | some r' =>
    have hsame : r' = r := eq_of_covers (List.mem_of_find?_eq_some hfound) hr
      (List.find?_some (p := fun r : CaseRun => r.covers c.toNat) hfound) hcovers
    subst hsame
    apply toNat_ofNat_of_isValidChar
    rcases hproper.2 with hbelow | habove
    · exact .inl (by omega)
    · exact .inr (by omega)

theorem foldsTo_iff : FoldsTo c.toNat m ↔ Folds c ∧ m = (foldCase c).toNat := by
  constructor
  · exact fun h => ⟨⟨m, h⟩, h.toNat_foldCase.symm⟩
  · rintro ⟨⟨m, h⟩, rfl⟩
    rwa [h.toNat_foldCase]

theorem foldCase_of_not_folds (h : ¬ Folds c) : foldCase c = c := by
  rw [foldCase, mapRuns]
  cases hfound : foldingRuns.find? (·.covers c.toNat) with
  | none => rfl
  | some r =>
    have hr := List.mem_of_find?_eq_some hfound
    have hcovers := List.find?_some (p := fun r : CaseRun => r.covers c.toNat) hfound
    exact absurd ⟨_, r, hr, (mem_foldedPairs hr).mpr ⟨hcovers, rfl⟩⟩ h

/-- Folding once is enough. -/
theorem foldCase_foldCase (c : Char) : foldCase (foldCase c) = foldCase c := by
  by_cases h : Folds c
  · apply foldCase_of_not_folds
    obtain ⟨m, hm⟩ := h
    rintro ⟨k, hk⟩
    rw [hm.toNat_foldCase] at hk
    exact hm.not_foldsTo hk
  · rw [foldCase_of_not_folds h, foldCase_of_not_folds h]

end Text

namespace CharSet

open Text

variable {s : CharSet} {n m : Nat}

theorem meets_of_hasCode {lo hi : Nat} (h : s.hasCode n = true) (hlow : lo ≤ n) (hhigh : n ≤ hi) :
    s.meets lo hi = true := by
  obtain ⟨x, hx, hfirst, hlast⟩ := hasCode_iff.mp h
  apply List.any_eq_true.mpr
  refine ⟨x, hx, ?_⟩
  simp only [Bool.and_eq_true, decide_eq_true_eq]
  omega

theorem mem_foldImages : m ∈ s.foldImages ↔ ∃ n, s.hasCode n = true ∧ FoldsTo n m := by
  simp only [foldImages, List.mem_filterMap, List.mem_flatMap, List.mem_filter, Prod.exists,
    Option.ite_none_right_eq_some, Option.some.injEq]
  constructor
  · rintro ⟨n, image, ⟨r, ⟨hr, -⟩, hpair⟩, hcode, rfl⟩
    exact ⟨n, hcode, r, hr, hpair⟩
  · rintro ⟨n, hcode, r, hr, hpair⟩
    obtain ⟨hlow, hhigh, -⟩ := CaseRun.covers_iff.mp ((mem_foldedPairs hr).mp hpair).1
    exact ⟨n, m, ⟨r, ⟨hr, meets_of_hasCode hcode hlow hhigh⟩, hpair⟩, hcode, rfl⟩

theorem mem_foldSources : n ∈ s.foldSources ↔ ∃ m, s.hasCode m = true ∧ FoldsTo n m := by
  simp only [foldSources, List.mem_filterMap, List.mem_flatMap, List.mem_filter, Prod.exists,
    Option.ite_none_right_eq_some, Option.some.injEq]
  constructor
  · rintro ⟨n, image, ⟨r, ⟨hr, -⟩, hpair⟩, hcode, rfl⟩
    exact ⟨image, hcode, r, hr, hpair⟩
  · rintro ⟨m, hcode, r, hr, hpair⟩
    obtain ⟨hcovers, hm⟩ := (mem_foldedPairs hr).mp hpair
    obtain ⟨hlow, hhigh, -⟩ := CaseRun.covers_iff.mp hcovers
    have hmeets : s.meets r.target (r.target + (r.last - r.first)) = true :=
      meets_of_hasCode hcode (by omega) (by omega)
    exact ⟨n, m, ⟨r, ⟨hr, hmeets⟩, hpair⟩, hcode, rfl⟩

theorem contains_ofCodes (codes : List Nat) (c : Char) :
    (ofCodes codes).contains c = true ↔ c.toNat ∈ codes := by
  rw [ofCodes, contains_ofRanges, inRanges_iff]
  constructor
  · rintro ⟨r, hr, hlow, hhigh⟩
    obtain ⟨n, hn, rfl⟩ := List.mem_map.mp hr
    rwa [Nat.le_antisymm hhigh hlow]
  · intro hmem
    exact ⟨_, List.mem_map_of_mem hmem, Nat.le_refl _, Nat.le_refl _⟩

theorem inOrder_ofCodes (codes : List Nat) : InOrder (ofCodes codes).ranges :=
  inOrder_ofRanges _

/-- A character with its folded form. -/
theorem contains_union_foldImages (c x : Char) :
    ((singleton c).union (ofCodes (singleton c).foldImages)).contains x = true ↔
      x = c ∨ (Folds c ∧ x = foldCase c) := by
  have himage : (ofCodes (singleton c).foldImages).contains x = true ↔
      Folds c ∧ x = foldCase c := by
    simp only [contains_ofCodes, mem_foldImages, hasCode_singleton, exists_eq_left, foldsTo_iff,
      Char.toNat_inj]
  rw [contains, hasCode_union (inOrder_singleton c) (inOrder_ofCodes _), hasCode_singleton,
    Char.toNat_inj]
  exact or_congr_right himage

theorem contains_foldSources (t : CharSet) (d : Char) :
    (ofCodes t.foldSources).contains d = true ↔ Folds d ∧ t.contains (foldCase d) = true := by
  simp only [contains_ofCodes, mem_foldSources, foldsTo_iff]
  constructor
  · rintro ⟨m, hcode, hfolds, rfl⟩
    exact ⟨hfolds, hcode⟩
  · rintro ⟨hfolds, hcode⟩
    exact ⟨_, hcode, hfolds, rfl⟩

/-- The set of a character up to case has the characters that differ from it in case only. -/
theorem contains_foldedCase_singleton (c d : Char) :
    (singleton c).foldedCase.contains d = sameLetter c d := by
  have horder := inOrder_union (inOrder_singleton c) (inOrder_ofCodes (singleton c).foldImages)
  have ht := contains_union_foldImages c
  rw [foldedCase]
  generalize (singleton c).union (ofCodes (singleton c).foldImages) = t at horder ht
  have hfolded : (t.union (ofCodes t.foldSources)).contains d = true ↔
      t.contains d = true ∨ (ofCodes t.foldSources).contains d = true :=
    hasCode_union horder (inOrder_ofCodes _)
  apply Bool.eq_iff_iff.mpr
  rw [hfolded, contains_foldSources, ht, ht, sameLetter, beq_iff_eq]
  constructor
  · rintro ((rfl | ⟨-, rfl⟩) | ⟨-, heq | ⟨-, heq⟩⟩)
    · rfl
    · rw [foldCase_foldCase]
    · rw [← heq, foldCase_foldCase]
    · exact heq.symm
  · intro heq
    by_cases hd : Folds d
    · by_cases hc : Folds c
      · exact .inr ⟨hd, .inr ⟨hc, heq.symm⟩⟩
      · rw [foldCase_of_not_folds hc] at heq
        exact .inr ⟨hd, .inl heq.symm⟩
    · rw [foldCase_of_not_folds hd] at heq
      by_cases hc : Folds c
      · exact .inl (.inr ⟨hc, heq.symm⟩)
      · rw [foldCase_of_not_folds hc] at heq
        exact .inl (.inl heq.symm)

end CharSet

end NetQuery
