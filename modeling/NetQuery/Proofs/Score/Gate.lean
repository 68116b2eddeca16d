import NetQuery.Compilation
import NetQuery.Library
import NetQuery.Proofs.Number.Rounding
import NetQuery.Proofs.Query.Clauses
import NetQuery.Proofs.Query.Printing
import NetQuery.Proofs.Score.Weights

namespace NetQuery

namespace Score

open Grammar Lexer

/-- The tokens that a word alone is read as. -/
def wordSymbols (word : List Char) : List Symbol :=
  match tokensFrom 0 word with
  | .ok tokens => tokens.symbols
  | .error _ => []

def clausesPerWord (text : String) : List Nat :=
  clausesPerPart none ((splitWords text.toList).map wordSymbols)

def clauseWords (text : String) : Nat :=
  (clausesPerWord text).countP (0 < ·)

variable {word : List Char} {words : List (List Char)} {part : List Symbol}
  {parts : List (List Symbol)} {before : Option Symbol} {text : String} {q : Query}

theorem wordSymbols_eq (h : Spells word part) : wordSymbols word = part := by
  obtain ⟨tokens, ht, rfl⟩ := h
  simp [wordSymbols, ht]

theorem map_wordSymbols (h : List.Forall₂ Spells words parts) : words.map wordSymbols = parts := by
  induction h with
  | nil => rfl
  | cons hword _ ih => rw [List.map_cons, wordSymbols_eq hword, ih]

/-- A word in which a clause begins is weighed as a component. -/
theorem isComponent_of_clausesIn_pos {rest : List Symbol} (h : Spells word part)
    (hpos : 0 < clausesIn before part rest) : isComponent word = true := by
  rw [← Bool.not_eq_false]
  intro hword
  obtain ⟨s, hs, hkind⟩ := exists_of_clausesIn_pos hpos
  have hglue := isGlue_of_not_isComponent hword h s hs
  obtain ⟨name, rfl⟩ | rfl := hkind <;> cases hglue

theorem countP_clausesPerPart_le (before : Option Symbol) (h : List.Forall₂ Spells words parts) :
    (clausesPerPart before parts).countP (0 < ·) ≤ words.countP isComponent := by
  induction h generalizing before with
  | nil => exact Nat.le_refl 0
  | @cons word part words parts hword _ ih =>
    have htail := ih (Text.lastOf before part)
    rw [clausesPerPart, List.countP_cons, List.countP_cons]
    by_cases hpos : 0 < clausesIn before part parts.flatten
    · simp only [hpos, decide_true, isComponent_of_clausesIn_pos hword hpos, if_true]
      omega
    · simp only [hpos, decide_false, Bool.false_eq_true, if_false]
      omega

theorem countP_pos_le_sum (counts : List Nat) : counts.countP (0 < ·) ≤ counts.sum := by
  induction counts with
  | nil => exact Nat.le_refl 0
  | cons n counts ih =>
    rw [List.countP_cons, List.sum_cons]
    by_cases hn : 0 < n <;> simp [hn] <;> omega

theorem sum_le_countP_pos {counts : List Nat} (h : ∀ n ∈ counts, n ≤ 1) :
    counts.sum ≤ counts.countP (0 < ·) := by
  induction counts with
  | nil => exact Nat.le_refl 0
  | cons n counts ih =>
    obtain ⟨hn, hcounts⟩ := List.forall_mem_cons.mp h
    have htail := ih hcounts
    rw [List.countP_cons, List.sum_cons]
    by_cases hpos : 0 < n <;> simp [hpos] <;> omega

/-- Every clause of a query begins in one word of its text. -/
theorem sum_clausesPerWord (h : (Verdict.ofText text none).query = some q) :
    (clausesPerWord text).sum = q.leaves.length := by
  obtain ⟨ts, hs, hd, -⟩ := Verdict.query_eq_some_iff.mp h
  obtain ⟨parts, hparts, rfl⟩ := spells_splitWords hs
  have hcount := (hd.clausesIn none [] rfl (by simp)).1
  simp only [Nonterminal.clausesBefore, Nat.zero_add] at hcount
  rw [clausesPerWord, map_wordSymbols hparts, sum_clausesPerPart, hcount]

theorem clauseWords_le_components (h : (Verdict.ofText text none).query = some q) :
    clauseWords text ≤ (Weighing.ofText text).components.length := by
  obtain ⟨ts, hs, -⟩ := Verdict.query_eq_some_iff.mp h
  obtain ⟨parts, hparts, rfl⟩ := spells_splitWords hs
  simp only [Weighing.ofText, List.length_reverse]
  rw [clauseWords, clausesPerWord, map_wordSymbols hparts, length_components]
  exact countP_clausesPerPart_le none hparts

theorem ten_le_weight (c : Component) : 10 ≤ c.weight :=
  Nat.le_trans c.kind.weight_bounds.1 (Nat.le_add_right _ _)

theorem length_le_tenths (w : Weighing) : w.components.length * 10 ≤ w.tenths := by
  have hsum (components : List Component) :
      components.length * 10 ≤ (components.map Component.weight).sum := by
    induction components with
    | nil => exact Nat.le_refl 0
    | cons c components ih =>
      have := ten_le_weight c
      rw [List.length_cons, List.map_cons, List.sum_cons]
      omega
  exact Nat.le_trans (hsum w.components) (Nat.le_add_right _ _)

theorem isValid_eq_false [Regex.Library] {target : Target}
    (h : target.config.maxComplexity.lt (Weighing.ofText text).complexity = true) :
    (Compilation.ofText target text).isValid = false := by
  have hgate : (admission text target.config.maxComplexity).isValid = false := by
    simp [admission, Admission.isValid, rejections, h]
  simp [Compilation.ofText, hgate, Compilation.isValid, Verdict.invalid]

/-- A text that is read as a query has at least as many components as words in which a clause
begins, each of weight one or more, and with more such words than its complexity may be it is
refused. Every clause begins in one word, so where no two begin in the same word the text has a
component for each clause. -/
theorem weighs_clause_words [Regex.Library] (h : (Verdict.ofText text none).query = some q) :
    ((clausesPerWord text).sum = q.leaves.length ∧
      ((∀ n ∈ clausesPerWord text, n ≤ 1) → clauseWords text = q.leaves.length)) ∧
    (clauseWords text ≤ (Weighing.ofText text).components.length ∧
      ∀ c ∈ (Weighing.ofText text).components, 10 ≤ c.weight) ∧
    ∀ target : Target,
      target.config.maxComplexity.lt (Binary64.ofNat (clauseWords text)) = true →
        (Compilation.ofText target text).isValid = false := by
  have hsum := sum_clausesPerWord h
  have hle := clauseWords_le_components h
  have hcount : clauseWords text ≤ q.leaves.length := hsum ▸ countP_pos_le_sum _
  refine ⟨⟨hsum, fun hone => ?_⟩, ⟨hle, fun c _ => ten_le_weight c⟩, fun target hlimit => ?_⟩
  · exact Nat.le_antisymm hcount (hsum ▸ sum_le_countP_pos hone)
  · obtain ⟨-, -, -, hleaves, -⟩ := Verdict.query_eq_some_iff.mp h
    have hexact : clauseWords text < 2 ^ (53 : Nat) :=
      calc clauseWords text ≤ maxClauses := Nat.le_trans hcount hleaves
        _ < 2 ^ (53 : Nat) := by decide
    have htenths : clauseWords text * 10 ≤ (Weighing.ofText text).tenths :=
      Nat.le_trans (Nat.mul_le_mul_right 10 hle) (length_le_tenths _)
    exact isValid_eq_false (Binary64.lt_ofRatio hexact (by decide) htenths hlimit)

theorem weighs_clause_words_of_three_clauses :
    let text := "severity:high AND (type:1) OR NOT status:1"
    let target : Target := ⟨{ Config.usual with maxComplexity := .ofNat 2 }, .usual, .alarms, 0⟩
    clausesPerWord text = [1, 0, 1, 0, 0, 1] ∧
      3 ≤ (Weighing.ofText text).components.length ∧
      (Compilation.ofText target text).isValid = false := by
  intro text target
  have hquery : (Verdict.ofText text none).query = some
      (.or (.and (.field "severity" (.text "high") none)
        (.group (.field "type" (.int 1) none))) (.not (.field "status" (.int 1) none))) := by
    decide +kernel
  have hcounts : clausesPerWord text = [1, 0, 1, 0, 0, 1] := by decide +kernel
  have hwords : clauseWords text = 3 := by
    rw [clauseWords, hcounts]
    rfl
  obtain ⟨-, ⟨hcomponents, -⟩, hrefused⟩ := weighs_clause_words hquery
  refine ⟨hcounts, hwords ▸ hcomponents, hrefused target ?_⟩
  rw [hwords]
  decide +kernel

/-- Two clauses without a blank between them are one component, so the limit of one clause lets
them pass. -/
theorem weighs_one_of_two_clauses :
    let text := "(severity:high)(type:1)"
    let target : Target := ⟨{ Config.usual with maxComplexity := .ofNat 1 }, .usual, .alarms, 0⟩
    ∃ q, (Verdict.ofText text none).query = some q ∧ q.leaves.length = 2 ∧
      (Weighing.ofText text).components.length = 1 ∧
      target.config.maxComplexity.lt (Binary64.ofNat q.leaves.length) = true ∧
      (Compilation.ofText target text).isValid = true := by
  intro text target
  refine ⟨.and (.group (.field "severity" (.text "high") none))
    (.group (.field "type" (.int 1) none)), ?_, rfl, ?_, ?_, ?_⟩ <;> decide +kernel

end Score

end NetQuery
