import NetQuery.Proofs.Text.Delimited
import NetQuery.Query.Literal

namespace NetQuery

namespace Number

theorem digitsFrom_natDigits (n : Nat) : digitsFrom 0 (natDigits n) = n := by
  have h : Nat.ofDigitChars 10 (Nat.toDigits 10 n) 0 = n := by simp
  simpa [digitsFrom, natDigits, Nat.ofDigitChars, digitValue] using h

theorem readDigits?_natDigits (n : Nat) : readDigits? (natDigits n) = some n := by
  have hdigits : (natDigits n).all Char.isDigit = true :=
    List.all_eq_true.mpr isDigit_of_mem_natDigits
  simp [readDigits?, hdigits, natDigits_ne_nil, digitsFrom_natDigits]

theorem readDigits?_eq_some_iff {cs : List Char} {n : Nat} :
    readDigits? cs = some n ↔
      cs ≠ [] ∧ (∀ c ∈ cs, c.isDigit = true) ∧ digitsFrom 0 cs = n := by
  have hcond : (!cs.isEmpty && cs.all Char.isDigit) = true ↔
      cs ≠ [] ∧ ∀ c ∈ cs, c.isDigit = true := by
    simp
  unfold readDigits?
  split
  · next h =>
    obtain ⟨hne, hdigits⟩ := hcond.mp h
    constructor
    · intro hvalue
      exact ⟨hne, hdigits, Option.some.inj hvalue⟩
    · rintro ⟨-, -, rfl⟩
      rfl
  · next h =>
    constructor
    · intro hnone
      cases hnone
    · rintro ⟨hne, hdigits, -⟩
      exact absurd (hcond.mpr ⟨hne, hdigits⟩) h

theorem readUnsigned?_of_readDigits? {cs : List Char} {n : Nat} (h : readDigits? cs = some n)
    (limit : Nat) : readUnsigned? limit cs = if n ≤ limit then some n else none := by
  obtain ⟨hne, hdigits, -⟩ := readDigits?_eq_some_iff.mp h
  obtain ⟨c, rest, rfl⟩ := List.exists_cons_of_ne_nil hne
  have hplus : c ≠ '+' := by
    rintro rfl
    have := hdigits '+' List.mem_cons_self
    revert this
    decide
  unfold readUnsigned?
  split
  · next heq => exact absurd (List.cons.inj heq).1 hplus
  · rw [h]
    rfl

theorem readInteger?_intText {n : Int} (hmin : minInt64 ≤ n) (hmax : n ≤ maxInt64) :
    readInteger? (intText n).toList = some n := by
  rw [toList_intText]
  split
  · next hneg =>
    have habs : n = -(n.natAbs : Int) := by omega
    generalize n.natAbs = m at habs ⊢
    subst habs
    simp [readInteger?, readDigits?_natDigits, hmin, hmax]
  · next hneg =>
    have habs : n = n.natAbs := by omega
    generalize n.natAbs = m at habs ⊢
    subst habs
    -- digits begin with no sign
    have hsign (c : Char) (hc : c.isDigit = false) (rest : List Char) :
        natDigits m ≠ c :: rest := by
      intro h
      have hdigit := isDigit_of_mem_natDigits c (h ▸ List.mem_cons_self)
      rw [hc] at hdigit
      cases hdigit
    rw [readInteger?, readDigits?_natDigits]
    · simp [hmin, hmax]
    · exact hsign '-' (by decide)
    · exact hsign '+' (by decide)

theorem digitValue_lt {c : Char} (h : c.isDigit = true) : digitValue c < 10 := by
  simp only [Char.isDigit, Bool.and_eq_true, decide_eq_true_eq] at h
  have hnine : c.toNat ≤ 57 := UInt32.le_iff_toNat_le.mp h.2
  unfold digitValue
  omega

theorem natDigits_digitValue {c : Char} (h : c.isDigit = true) :
    natDigits (digitValue c) = [c] := by
  have hlt := digitValue_lt h
  simp only [Char.isDigit, Bool.and_eq_true, decide_eq_true_eq] at h
  have hzero : 48 ≤ c.toNat := UInt32.le_iff_toNat_le.mp h.1
  rw [natDigits, Nat.toDigits_of_lt_base hlt, List.singleton_inj]
  apply Char.toNat_inj.mp
  rw [Nat.toNat_digitChar_of_lt_ten hlt]
  unfold digitValue
  omega

theorem natDigits_digitsFrom_of_pos {acc : Nat} {ds : List Char} (hacc : 0 < acc)
    (hdigits : ∀ c ∈ ds, c.isDigit = true) :
    natDigits (digitsFrom acc ds) = natDigits acc ++ ds := by
  induction ds generalizing acc with
  | nil => simp [digitsFrom]
  | cons c ds ih =>
    obtain ⟨hc, hds⟩ := List.forall_mem_cons.mp hdigits
    have hnext : natDigits (10 * acc + digitValue c) = natDigits acc ++ [c] := by
      rw [← natDigits_digitValue hc]
      exact (Nat.toDigits_append_toDigits (by decide) hacc (digitValue_lt hc)).symm
    have hpos : 0 < 10 * acc + digitValue c := by omega
    have hih := ih hpos hds
    rw [hnext, List.append_assoc] at hih
    exact hih

/-- Digits without a zero in front are those of their number. -/
theorem natDigits_digitsFrom {ds : List Char} (hne : ds ≠ [])
    (hdigits : ∀ c ∈ ds, c.isDigit = true) (hplain : ds.head? = some '0' → ds.length = 1) :
    natDigits (digitsFrom 0 ds) = ds := by
  obtain ⟨c, rest, rfl⟩ := List.exists_cons_of_ne_nil hne
  obtain ⟨hc, hrest⟩ := List.forall_mem_cons.mp hdigits
  have hstart : digitsFrom 0 (c :: rest) = digitsFrom (digitValue c) rest := by
    simp [digitsFrom]
  rw [hstart]
  by_cases hzero : c = '0'
  · have hnil : rest = [] := by simpa [hzero] using hplain
    rw [hnil]
    exact natDigits_digitValue hc
  · have hpos : 0 < digitValue c := by
      refine Nat.pos_of_ne_zero fun h => hzero ?_
      have hchar := natDigits_digitValue hc
      rw [h] at hchar
      exact (List.cons.inj hchar).1.symm
    rw [natDigits_digitsFrom_of_pos hpos hrest, natDigits_digitValue hc]
    rfl

variable {width n : Nat}

/-- The digits of a number that fits the width fill it. -/
theorem length_paddedDigits (hwidth : 0 < width) (h : n < 10 ^ width) :
    (paddedDigits width n).length = width := by
  have hle : (natDigits n).length ≤ width := (Nat.length_toDigits_le_iff (by decide) hwidth).mpr h
  simp only [paddedDigits, List.length_append, List.length_replicate]
  omega

theorem isDigit_of_mem_paddedDigits : ∀ c ∈ paddedDigits width n, c.isDigit = true := by
  intro c hc
  rcases List.mem_append.mp hc with hzero | hdigit
  · rw [List.eq_of_mem_replicate hzero]
    decide
  · exact isDigit_of_mem_natDigits c hdigit

theorem paddedDigits_ne_nil (width n : Nat) : paddedDigits width n ≠ [] :=
  List.append_ne_nil_of_right_ne_nil _ (natDigits_ne_nil n)

theorem exists_paddedDigits_eq_cons (width n : Nat) :
    ∃ d ds, paddedDigits width n = d :: ds ∧ d.isDigit = true := by
  obtain ⟨d, ds, hd⟩ := List.exists_cons_of_ne_nil (paddedDigits_ne_nil width n)
  exact ⟨d, ds, hd, isDigit_of_mem_paddedDigits d (hd ▸ List.mem_cons_self)⟩

/-- Zeros in front do not change a number. -/
theorem digitsFrom_paddedDigits (width n : Nat) : digitsFrom 0 (paddedDigits width n) = n := by
  have hzeros (k : Nat) : digitsFrom 0 (List.replicate k '0') = 0 := by
    induction k with
    | zero => rfl
    | succ k ih => exact ih
  have happend : digitsFrom 0 (paddedDigits width n) =
      digitsFrom (digitsFrom 0 (List.replicate (width - (natDigits n).length) '0'))
        (natDigits n) := List.foldl_append
  rw [happend, hzeros, digitsFrom_natDigits]

end Number

namespace Literal

open Number

/-- A whole number that is exact is read back from its text. -/
theorem ofWord_intText {n : Int} (h : n.natAbs ≤ maxExact.natAbs) :
    ofWord (intText n) = .int n := by
  have hmin : minInt64 ≤ n := by
    simp only [minInt64, maxExact] at *
    omega
  have hmax : n ≤ maxInt64 := by
    simp only [maxInt64, maxExact] at *
    omega
  simp [ofWord, readInteger?_intText hmin hmax, Option.filter_some, h]

/-- A word is taken for a whole number that is written as it stands or in another form. -/
theorem ofWord_intText_of_ofWord {word : String} {n : Int} (h : ofWord word = .int n) :
    ofWord (intText n) = .int n := by
  refine ofWord_intText ?_
  unfold ofWord at h
  split at h
  · next m hm =>
    cases h
    simpa using (Option.filter_eq_some_iff.mp hm).2
  · split at h
    · split at h <;> cases h
    · cases h

/-- A word is taken for a text only as it stands. -/
theorem eq_of_ofWord_eq_text {word s : String} (h : ofWord word = .text s) : s = word := by
  unfold ofWord at h
  split at h
  · cases h
  · split at h
    · split at h <;> cases h
      rfl
    · cases h
      rfl

end Literal

end NetQuery
