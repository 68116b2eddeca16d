import NetQuery.Number.Integer
import NetQuery.Plan.Window

namespace NetQuery

open Number

namespace Text

variable {p : Char → Bool} {a a' x x' : List Char}

/-- A run of characters of one kind, with no more of them after it, is told from the whole. -/
theorem run_unique (ha : ∀ c ∈ a, p c = true) (ha' : ∀ c ∈ a', p c = true)
    (hx : ∀ c ∈ x.head?, p c = false) (hx' : ∀ c ∈ x'.head?, p c = false)
    (h : a ++ x = a' ++ x') : a = a' ∧ x = x' := by
  induction a generalizing a' with
  | nil =>
    cases a' with
    | nil => exact ⟨rfl, h⟩
    | cons c a' =>
      rw [List.nil_append] at h
      subst h
      have := hx c rfl
      rw [ha' c List.mem_cons_self] at this
      cases this
  | cons c a ih =>
    cases a' with
    | nil =>
      rw [List.nil_append] at h
      subst h
      have := hx' c rfl
      rw [ha c List.mem_cons_self] at this
      cases this
    | cons c' a' =>
      rw [List.cons_append, List.cons_append, List.cons.injEq] at h
      obtain ⟨rfl, h⟩ := h
      obtain ⟨rfl, rfl⟩ := ih (fun d hd => ha d (List.mem_cons_of_mem _ hd))
        (fun d hd => ha' d (List.mem_cons_of_mem _ hd)) h
      exact ⟨rfl, rfl⟩

theorem not_of_head?_dropWhile (p : Char → Bool) (cs : List Char) :
    ∀ c ∈ (cs.dropWhile p).head?, p c = false := by
  intro c hc
  have hnot := List.head?_dropWhile_not p cs
  rw [hc] at hnot
  exact hnot

theorem takeWhile_eq_nil {cs : List Char} (h : ∀ c ∈ cs.head?, p c = false) :
    cs.takeWhile p = [] := by
  cases cs with
  | nil => rfl
  | cons c cs => exact List.takeWhile_cons_of_neg (by simp [h c rfl])

theorem dropWhile_eq_self {cs : List Char} (h : ∀ c ∈ cs.head?, p c = false) :
    cs.dropWhile p = cs := by
  cases cs with
  | nil => rfl
  | cons c cs => exact List.dropWhile_cons_of_neg (by simp [h c rfl])

theorem takeWhile_run (ha : ∀ c ∈ a, p c = true) (hx : ∀ c ∈ x.head?, p c = false) :
    (a ++ x).takeWhile p = a := by
  rw [List.takeWhile_append_of_pos ha, takeWhile_eq_nil hx, List.append_nil]

theorem dropWhile_run (ha : ∀ c ∈ a, p c = true) (hx : ∀ c ∈ x.head?, p c = false) :
    (a ++ x).dropWhile p = x := by
  rw [List.dropWhile_append_of_pos ha, dropWhile_eq_self hx]

theorem trimBlanks_eq_self {cs : List Char} (hfirst : ∀ c ∈ cs.head?, isBlank c = false)
    (hlast : ∀ c ∈ cs.getLast?, isBlank c = false) : trimBlanks cs = cs := by
  have hfront : dropBlanks cs = cs := dropWhile_eq_self hfirst
  have hback : dropBlanks cs.reverse = cs.reverse := by
    apply dropWhile_eq_self
    rwa [List.head?_reverse]
  rw [trimBlanks, hfront, hback, List.reverse_reverse]

theorem trimBlanks_of_not_blank {cs : List Char} (h : ∀ c ∈ cs, isBlank c = false) :
    trimBlanks cs = cs :=
  trimBlanks_eq_self (fun c hc => h c (List.mem_of_head? hc))
    fun c hc => h c (List.mem_of_getLast? hc)

/-- Between the blank and the first control character behind the letters stands no blank. -/
theorem not_blank_of_visible {c : Char} (hlow : 0x21 ≤ c.toNat) (hhigh : c.toNat ≤ 0x7e) :
    isBlank c = false := by
  rw [Bool.eq_false_iff]
  intro hblank
  obtain ⟨r, hr, hfirst, hlast⟩ := inRanges_iff.mp hblank
  have hapart : ∀ r ∈ blankRanges, r.2 < 0x21 ∨ 0x7e < r.1 := by decide
  rcases hapart r hr with hr | hr <;> omega

theorem not_blank_of_isDigit {c : Char} (h : c.isDigit = true) : isBlank c = false := by
  simp only [Char.isDigit, Bool.and_eq_true, decide_eq_true_eq] at h
  have hzero : 0x30 ≤ c.toNat := UInt32.le_iff_toNat_le.mp h.1
  have hnine : c.toNat ≤ 0x39 := UInt32.le_iff_toNat_le.mp h.2
  exact not_blank_of_visible (by omega) (by omega)

theorem isLower_iff {c : Char} : c.isLower = true ↔ 0x61 ≤ c.toNat ∧ c.toNat ≤ 0x7a := by
  have hlower : c.isLower = (decide ('a'.val ≤ c.val) && decide (c.val ≤ 'z'.val)) := rfl
  rw [hlower, Bool.and_eq_true, decide_eq_true_eq, decide_eq_true_eq, UInt32.le_iff_toNat_le,
    UInt32.le_iff_toNat_le]
  exact Iff.rfl

theorem isAlpha_iff {c : Char} : c.isAlpha = true ↔
    (0x41 ≤ c.toNat ∧ c.toNat ≤ 0x5a) ∨ (0x61 ≤ c.toNat ∧ c.toNat ≤ 0x7a) := by
  have halpha : c.isAlpha = (decide ('A'.val ≤ c.val ∧ c.val ≤ 'Z'.val) || c.isLower) := rfl
  rw [halpha, Bool.or_eq_true, decide_eq_true_eq, isLower_iff, UInt32.le_iff_toNat_le,
    UInt32.le_iff_toNat_le]
  exact Iff.rfl

theorem isAlphanum_iff {c : Char} : c.isAlphanum = true ↔ (0x30 ≤ c.toNat ∧ c.toNat ≤ 0x39) ∨
    (0x41 ≤ c.toNat ∧ c.toNat ≤ 0x5a) ∨ (0x61 ≤ c.toNat ∧ c.toNat ≤ 0x7a) := by
  have hboth : c.isAlphanum = (c.isAlpha || c.isDigit) := rfl
  rw [hboth, Bool.or_eq_true, isAlpha_iff, or_comm]
  simp only [Char.isDigit, ge_iff_le, UInt32.le_iff_toNat_le, Bool.and_eq_true, decide_eq_true_eq]
  exact Iff.rfl

theorem toNat_toLower {c : Char} (hlow : 0x41 ≤ c.toNat) (hhigh : c.toNat ≤ 0x5a) :
    c.toLower.toNat = c.toNat + 32 := by
  have hupper : c.val ≥ 'A'.val ∧ c.val ≤ 'Z'.val :=
    ⟨UInt32.le_iff_toNat_le.mpr hlow, UInt32.le_iff_toNat_le.mpr hhigh⟩
  have hval : c.toLower.val = c.val + 32 := congrArg Char.val (dif_pos hupper)
  have hnat : c.toLower.toNat = (c.toNat + 32) % 4294967296 := by
    rw [Char.toNat, hval, UInt32.toNat_add]
    rfl
  omega

theorem toLower_cases (c : Char) :
    (0x41 ≤ c.toNat ∧ c.toNat ≤ 0x5a ∧ c.toLower.toNat = c.toNat + 32) ∨ c.toLower = c := by
  by_cases hupper : c.val ≥ 'A'.val ∧ c.val ≤ 'Z'.val
  · have hlow : 0x41 ≤ c.toNat := UInt32.le_iff_toNat_le.mp hupper.1
    have hhigh : c.toNat ≤ 0x5a := UInt32.le_iff_toNat_le.mp hupper.2
    exact .inl ⟨hlow, hhigh, toNat_toLower hlow hhigh⟩
  · exact .inr (dif_neg hupper)

theorem toLower_of_isDigit {c : Char} (h : c.isDigit = true) : c.toLower = c := by
  simp only [Char.isDigit, Bool.and_eq_true, decide_eq_true_eq] at h
  have hnine : c.toNat ≤ 0x39 := UInt32.le_iff_toNat_le.mp h.2
  rcases toLower_cases c with ⟨hlow, -, -⟩ | hsame
  · omega
  · exact hsame

theorem toLower_toLower (c : Char) : c.toLower.toLower = c.toLower := by
  rcases toLower_cases c with ⟨hlow, -, hnat⟩ | hsame
  · rcases toLower_cases c.toLower with ⟨-, hhigh, -⟩ | hsame
    · omega
    · exact hsame
  · rw [hsame, hsame]

/-- A character whose lower case is no letter is that character. -/
theorem eq_of_toLower_eq {c d : Char} (h : c.toLower = d) (hd : d.isLower = false) : c = d := by
  rcases toLower_cases c with ⟨hlow, hhigh, hnat⟩ | hsame
  · rw [h] at hnat
    have hlower : d.isLower = true := isLower_iff.mpr ⟨by omega, by omega⟩
    rw [hd] at hlower
    cases hlower
  · rw [← h, hsame]

theorem not_blank_of_toLower {c : Char} (h : isBlank c.toLower = false) : isBlank c = false := by
  rcases toLower_cases c with ⟨hlow, hhigh, -⟩ | hsame
  · exact not_blank_of_visible (by omega) (by omega)
  · rwa [hsame] at h

theorem exists_run (p : Char → Bool) (cs : List Char) : ∃ run rest, cs = run ++ rest ∧
    (∀ c ∈ run, p c = true) ∧ ∀ c ∈ rest.head?, p c = false :=
  ⟨cs.takeWhile p, cs.dropWhile p, List.takeWhile_append_dropWhile.symm,
    fun c hc => List.all_eq_true.mp List.all_takeWhile c hc, not_of_head?_dropWhile p cs⟩

theorem exists_last_run (p : Char → Bool) (cs : List Char) : ∃ start run, cs = start ++ run ∧
    (∀ c ∈ run, p c = true) ∧ ∀ c ∈ start.getLast?, p c = false := by
  obtain ⟨run, rest, hcs, hrun, hrest⟩ := exists_run p cs.reverse
  refine ⟨rest.reverse, run.reverse, ?_, by simpa using hrun, by simpa using hrest⟩
  rw [← List.reverse_append, ← hcs, List.reverse_reverse]

/-- The last of some items with one before them. -/
def lastOf {α : Type} (before : Option α) (items : List α) : Option α :=
  items.getLast?.or before

@[simp] theorem lastOf_nil {α : Type} (before : Option α) : lastOf before [] = before := rfl

@[simp] theorem lastOf_cons {α : Type} (before : Option α) (a : α) (rest : List α) :
    lastOf before (a :: rest) = lastOf (some a) rest := by
  simp [lastOf, List.getLast?_cons, Option.getD]

theorem lastOf_append {α : Type} (before : Option α) (u v : List α) :
    lastOf before (u ++ v) = lastOf (lastOf before u) v := by
  induction u generalizing before with
  | nil => rfl
  | cons a u ih => simp [ih]

theorem notMem_of_not {c : Char} (ha : ∀ d ∈ a, p d = true) (hc : p c = false) : c ∉ a := by
  intro hmem
  rw [ha c hmem] at hc
  cases hc

theorem bne_of_notMem {separator : Char} (h : separator ∉ a) :
    ∀ c ∈ a, (c != separator) = true := by
  intro c hc
  rw [bne_iff_ne]
  rintro rfl
  exact h hc

/-- A piece without the separator is told from what the separator joins to it. -/
theorem piece_unique {separator : Char} (ha : separator ∉ a) (ha' : separator ∉ a')
    (h : a ++ separator :: x = a' ++ separator :: x') : a = a' ∧ x = x' := by
  have hend : ∀ l : List Char, ∀ c ∈ (separator :: l).head?, (c != separator) = false := by
    rintro l c ⟨⟩
    simp
  obtain ⟨rfl, hx⟩ := run_unique (bne_of_notMem ha) (bne_of_notMem ha') (hend x) (hend x') h
  exact ⟨rfl, (List.cons.inj hx).2⟩

/-- Pieces with the separator before each of them are told from the whole. -/
theorem pieces_unique {separator : Char} {as bs : List (List Char)}
    (has : ∀ a ∈ as, separator ∉ a) (hbs : ∀ b ∈ bs, separator ∉ b)
    (h : as.flatMap (separator :: ·) = bs.flatMap (separator :: ·)) : as = bs := by
  induction as generalizing bs with
  | nil =>
    cases bs with
    | nil => rfl
    | cons b bs => simp at h
  | cons a as ih =>
    cases bs with
    | nil => simp at h
    | cons b bs =>
      obtain ⟨ha, has'⟩ := List.forall_mem_cons.mp has
      obtain ⟨hb, hbs'⟩ := List.forall_mem_cons.mp hbs
      simp only [List.flatMap_cons, List.cons_append, List.cons.injEq, true_and] at h
      have hend : ∀ l : List (List Char), ∀ c ∈ (l.flatMap (separator :: ·)).head?,
          (c != separator) = false := by
        intro l c hc
        cases l with
        | nil => cases hc
        | cons d l =>
          cases hc
          simp
      obtain ⟨hab, hrest⟩ :=
        run_unique (bne_of_notMem ha) (bne_of_notMem hb) (hend as) (hend bs) h
      rw [hab, ih has' hbs' hrest]

end Text

namespace Number

theorem natDigits_injective {m n : Nat} (h : natDigits m = natDigits n) : m = n := by
  have := congrArg (Nat.ofDigitChars 10 · 0) h
  simpa [natDigits] using this

theorem isDigit_of_mem_natDigits {n : Nat} : ∀ c ∈ natDigits n, c.isDigit = true := fun _ hc =>
  Nat.isDigit_of_mem_toDigits (by decide) (by decide) hc

theorem natDigits_ne_nil (n : Nat) : natDigits n ≠ [] :=
  Nat.toDigits_ne_nil

/-- Decimal digits do not start with anything else. -/
theorem ne_natDigits_append {c : Char} {n : Nat} {x y : List Char} (hc : c.isDigit = false) :
    c :: x ≠ natDigits n ++ y := by
  intro h
  obtain ⟨d, ds, hd⟩ := List.exists_cons_of_ne_nil (natDigits_ne_nil n)
  have hdigit := isDigit_of_mem_natDigits d (hd ▸ List.mem_cons_self)
  rw [hd, List.cons_append, List.cons.injEq] at h
  rw [h.1, hdigit] at hc
  cases hc

theorem natDigits_unique {m n : Nat} {x x' : List Char} (hx : ∀ c ∈ x.head?, c.isDigit = false)
    (hx' : ∀ c ∈ x'.head?, c.isDigit = false) (h : natDigits m ++ x = natDigits n ++ x') :
    m = n ∧ x = x' := by
  obtain ⟨hdigits, rfl⟩ :=
    Text.run_unique isDigit_of_mem_natDigits isDigit_of_mem_natDigits hx hx' h
  exact ⟨natDigits_injective hdigits, rfl⟩

/-- The characters of a whole number: digits with an optional minus sign. -/
theorem toList_intText (n : Int) :
    (intText n).toList = if n < 0 then '-' :: natDigits n.natAbs else natDigits n.natAbs := by
  by_cases hn : n < 0 <;> simp [intText, natText, hn]

end Number

namespace Window

theorem toList_endText (t : Option Int) :
    (endText t).toList =
      match t with
      | none => ['*']
      | some n => if n < 0 then '-' :: natDigits n.natAbs else natDigits n.natAbs := by
  cases t with
  | none => simp [endText, Query.matchAllName]
  | some n => exact toList_intText n

/-- The end of a window is told from what follows it, unless that starts with a digit. -/
theorem endText_unique {t t' : Option Int} {x x' : List Char}
    (hx : ∀ c ∈ x.head?, c.isDigit = false) (hx' : ∀ c ∈ x'.head?, c.isDigit = false)
    (h : (endText t).toList ++ x = (endText t').toList ++ x') : t = t' ∧ x = x' := by
  have hstar : '*'.isDigit = false := by decide
  have hminus : '-'.isDigit = false := by decide
  rw [toList_endText, toList_endText] at h
  cases t with
  | none =>
    cases t' with
    | none => exact ⟨rfl, by simpa using h⟩
    | some n =>
      simp only at h
      split at h
      · cases h
      · exact absurd h (ne_natDigits_append hstar)
  | some m =>
    cases t' with
    | none =>
      simp only at h
      split at h
      · cases h
      · exact absurd h.symm (ne_natDigits_append hstar)
    | some n =>
      simp only at h
      split at h <;> split at h
      · next hm hn =>
        obtain ⟨habs, rfl⟩ := natDigits_unique hx hx' (List.cons.inj h).2
        exact ⟨by congr 1; omega, rfl⟩
      · exact absurd h (ne_natDigits_append hminus)
      · exact absurd h.symm (ne_natDigits_append hminus)
      · next hm hn =>
        obtain ⟨habs, rfl⟩ := natDigits_unique hx hx' h
        exact ⟨by congr 1; omega, rfl⟩

end Window

end NetQuery
