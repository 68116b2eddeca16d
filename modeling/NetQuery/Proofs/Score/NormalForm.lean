import Mathlib.Data.List.DropRight
import NetQuery.Proofs.Score.Weights
import NetQuery.Proofs.Text.Segments

namespace NetQuery

namespace Score

open Place (free)

variable {word bare cs closing : List Char} {r : Reading} {c : Component}
  {components : List Component}

theorem dropParentheses_eq (word : List Char) : dropParentheses word =
    if (unquote? (word.dropWhile (· == '('))).isSome then word.dropWhile (· == '(')
    else (word.dropWhile (· == '(')).rdropWhile (· == ')') := rfl

theorem head?_dropParentheses (word : List Char) :
    ∀ c ∈ (dropParentheses word).head?, (c == '(') = false := by
  have hfront : ∀ c ∈ (word.dropWhile (· == '(')).head?, (c == '(') = false :=
    Text.not_of_head?_dropWhile (· == '(') word
  rw [dropParentheses_eq]
  split
  · exact hfront
  · intro c hc
    obtain ⟨rest, hrest⟩ := List.rdropWhile_prefix (· == ')') (word.dropWhile (· == '('))
    refine hfront c ?_
    rw [← hrest, List.head?_append, hc]
    rfl

/-- Parentheses that are dropped leave none to drop. -/
theorem dropParentheses_dropParentheses (word : List Char) :
    dropParentheses (dropParentheses word) = dropParentheses word := by
  have hfront := Text.dropWhile_eq_self (head?_dropParentheses word)
  rw [dropParentheses_eq (dropParentheses word), hfront]
  split
  · rfl
  · next hquoted =>
    rw [dropParentheses_eq word] at hquoted ⊢
    split at hquoted
    · next h => exact absurd h hquoted
    · next h => rw [if_neg h, List.rdropWhile_idempotent]

/-- What closing parentheses follow is left at the free place, if they are. -/
theorem run_of_closeParens (h : ∀ c ∈ closing, c = ')') (hrun : free.run (cs ++ closing) = free) :
    free.run cs = free := by
  induction closing generalizing cs with
  | nil => simpa using hrun
  | cons c closing ih =>
    obtain ⟨rfl, hclosing⟩ := List.forall_mem_cons.mp h
    have hnext : (free.run cs).next ')' = free := by
      have hbefore : free.run (cs ++ [')']) = free := ih hclosing (by simpa using hrun)
      rwa [Place.run_append] at hbefore
    -- a parenthesis closes no quoted text, so the scan was outside before it
    have hquote : ∀ q, (free.run cs).state.quote? = some q → q ≠ ')' := by
      rintro q hq rfl
      rw [Place.state_run] at hq
      cases Text.QuoteState.isQuote_of_quote?_run hq
    revert hnext hquote
    generalize free.run cs = p
    intro hnext hquote
    obtain ⟨state, depth⟩ := p
    cases state with
    | outside => exact hnext
    | inside q =>
      have hq := hquote q rfl
      simp [Place.next, Text.QuoteState.next, free, Ne.symm hq] at hnext
    | escaped q => simp [Place.next, Text.QuoteState.next, free] at hnext

theorem IsWord.dropParentheses (h : IsWord word) (hne : dropParentheses word ≠ []) :
    IsWord (dropParentheses word) := by
  obtain ⟨opening, closing, hsplit, hopening, hclosing⟩ := exists_parentheses word
  have hfree : free.run opening = free := Place.free_run fun c hc => by
    rw [hopening c hc]
    decide
  have hrun := h.whole
  have hunbroken := h.unbroken
  rw [hsplit, Place.run_append, hfree] at hrun
  rw [hsplit, Place.isUnbroken_append, hfree, Place.isUnbroken_append] at hunbroken
  simp only [Bool.and_eq_true] at hunbroken
  exact ⟨hne, hunbroken.2.1, run_of_closeParens hclosing hrun⟩

/-- A word that is a condition is one without its parentheses. -/
theorem role_bare (h : role word = .condition bare) :
    bare ≠ [] ∧ role bare = .condition bare := by
  obtain rfl := eq_dropParentheses h
  unfold role at h
  split at h
  · cases h
  · simp only at h
    split at h
    · cases h
    · next hne =>
      split at h
      · cases h
      · next hnone =>
        refine ⟨by simpa using hne, ?_⟩
        simp only [role, hnone, dropParentheses_dropParentheses, hne]
        rfl

/-- A component that its text is read as. -/
structure Component.IsSettled (c : Component) : Prop where
  isWord : IsWord c.text.toList
  role : role c.text.toList = .condition c.text.toList
  classify : Score.classify c.text.toList c.connectives = c

theorem isSettled_classify (hword : IsWord word) (hrole : role word = .condition bare)
    (connectives : List Connective) : (classify bare connectives).IsSettled := by
  obtain rfl := eq_dropParentheses hrole
  obtain ⟨hne, hbare⟩ := role_bare hrole
  have htext : (classify (dropParentheses word) connectives).text.toList =
      dropParentheses word := by simp
  refine ⟨?_, ?_, ?_⟩ <;> rw [htext]
  · exact hword.dropParentheses hne
  · exact hbare
  · rw [connectives_classify]

/-- What is read of words that can stand anywhere is settled. -/
theorem isSettled_of_mem_foldl {words : List (List Char)} (hwords : ∀ word ∈ words, IsWord word)
    (hr : ∀ c ∈ r.components, c.IsSettled) :
    ∀ c ∈ (words.foldl Reading.add r).components, c.IsSettled := by
  induction words generalizing r with
  | nil => exact hr
  | cons word words ih =>
    obtain ⟨hword, hrest⟩ := List.forall_mem_cons.mp hwords
    refine ih hrest ?_
    obtain ⟨grouped, hadd⟩ := r.add_eq word
    rw [hadd]
    cases hrole : role word with
    | connective w => exact hr
    | condition bare => exact List.forall_mem_cons.mpr ⟨isSettled_classify hword hrole _, hr⟩
    | nothing => exact hr

def Component.words (c : Component) : List (List Char) :=
  c.connectives.map (·.name.toList) ++ [c.text.toList]

theorem Component.IsSettled.splitWords_toText (h : c.IsSettled) :
    splitWords c.toText.toList = c.words ∧ free.run c.toText.toList = free := by
  have hname (w : Connective) :
      splitWords w.name.toList = [w.name.toList] ∧ free.run w.name.toList = free := by
    cases w <;> decide
  rw [Component.toText, Component.words, String.toList_append, String.toList_join]
  induction c.connectives with
  | nil => exact ⟨h.isWord.splitWords, h.isWord.whole⟩
  | cons w ws ih =>
    have htext : ((w :: ws).map fun w => w.name ++ " ").flatMap String.toList ++ c.text.toList =
        w.name.toList ++ ' ' :: ((ws.map fun w => w.name ++ " ").flatMap String.toList ++
          c.text.toList) := by
      simp [String.toList_append]
    rw [htext, splitWords_append (hname w).2 (by decide), (hname w).1, ih.1, Place.run_append,
      (hname w).2, Place.run_cons, Place.free_next_of_isBlank (by decide), ih.2]
    exact ⟨rfl, rfl⟩

/-- Connectives that are read wait for a component. -/
theorem foldl_names (connectives : List Connective) (r : Reading) : ∃ grouped,
    (connectives.map (·.name.toList)).foldl Reading.add r =
      ⟨r.components, connectives.reverse ++ r.pending, grouped⟩ := by
  induction connectives generalizing r with
  | nil => exact ⟨r.grouped, rfl⟩
  | cons w rest ih =>
    have hrole : role w.name.toList = .connective w := by cases w <;> rfl
    obtain ⟨grouped, hadd⟩ := r.add_eq w.name.toList
    obtain ⟨grouped', hrest⟩ := ih (r.add w.name.toList)
    rw [hrole] at hadd
    refine ⟨grouped', ?_⟩
    rw [List.map_cons, List.foldl_cons, hrest, hadd]
    simp

/-- The words of a settled component are read as the component. -/
theorem Component.IsSettled.foldl_words (h : c.IsSettled) (hpending : r.pending = []) :
    ∃ grouped, c.words.foldl Reading.add r = ⟨c :: r.components, [], grouped⟩ := by
  obtain ⟨grouped, hnames⟩ := foldl_names c.connectives r
  rw [Component.words, List.foldl_append, hnames]
  obtain ⟨grouped', hadd⟩ :=
    (⟨r.components, c.connectives.reverse ++ r.pending, grouped⟩ : Reading).add_eq c.text.toList
  rw [h.role] at hadd
  refine ⟨grouped', ?_⟩
  rw [List.foldl_cons, List.foldl_nil, hadd]
  simp [hpending, h.classify]

theorem foldl_flatMap_words (h : ∀ c ∈ components, c.IsSettled) (hpending : r.pending = []) :
    ∃ grouped, (components.flatMap Component.words).foldl Reading.add r =
      ⟨components.reverse ++ r.components, [], grouped⟩ := by
  induction components generalizing r with
  | nil => exact ⟨r.grouped, by rw [← hpending]; rfl⟩
  | cons c components ih =>
    obtain ⟨hc, hcomponents⟩ := List.forall_mem_cons.mp h
    obtain ⟨grouped, hwords⟩ := hc.foldl_words hpending
    obtain ⟨grouped', hrest⟩ := ih (r := ⟨c :: r.components, [], grouped⟩) hcomponents rfl
    refine ⟨grouped', ?_⟩
    rw [List.flatMap_cons, List.foldl_append, hwords, hrest]
    simp

/-- Settled components that are printed are read back, and no connective is left over. -/
theorem ofText_intercalate (h : ∀ c ∈ components, c.IsSettled) :
    (Weighing.ofText (String.intercalate " " (components.map Component.toText))).components =
        components ∧
      (Weighing.ofText (String.intercalate " " (components.map Component.toText))).dangling =
        [] := by
  have hwords : splitWords (String.intercalate " " (components.map Component.toText)).toList =
      components.flatMap Component.words := by
    have hjoin : (String.intercalate " " (components.map Component.toText)).toList =
        joinWords (components.map fun c => c.toText.toList) := by
      simp [String.toList_intercalate, joinWords, Function.comp_def]
    rw [hjoin, splitWords_joinWords (by simpa using fun c hc => (h c hc).splitWords_toText.2),
      List.flatMap_map]
    exact List.flatMap_congr fun c hc => (h c hc).splitWords_toText.1
  obtain ⟨grouped, hread⟩ := foldl_flatMap_words (r := ⟨[], [], false⟩) h rfl
  simp only [Weighing.ofText, read, hwords, hread]
  simp

def noHeavier (a b : Component) : Bool :=
  a.kind.weight ≤ b.kind.weight

theorem noHeavier_trans (a b c : Component) :
    noHeavier a b = true → noHeavier b c = true → noHeavier a c = true := by
  simp only [noHeavier, decide_eq_true_eq]
  exact Nat.le_trans

theorem noHeavier_total (a b : Component) : (noHeavier a b || noHeavier b a) = true := by
  simp only [noHeavier, Bool.or_eq_true, decide_eq_true_eq]
  exact Nat.le_total _ _

namespace Weighing

theorem ordered_eq (w : Weighing) : w.ordered = w.components.mergeSort noHeavier := rfl

theorem ordered_perm (w : Weighing) : w.ordered.Perm w.components :=
  List.mergeSort_perm _ _

theorem pairwise_ordered (w : Weighing) : w.ordered.Pairwise fun a b => noHeavier a b = true :=
  List.pairwise_mergeSort noHeavier_trans noHeavier_total w.components

/-- Components of one weight keep their order. -/
theorem filter_ordered (w : Weighing) (n : Nat) :
    w.ordered.filter (·.kind.weight == n) = w.components.filter (·.kind.weight == n) := by
  have hclass : (w.components.filter (·.kind.weight == n)).Pairwise
      fun a b => noHeavier a b = true := by
    refine List.pairwise_filter.mpr (List.pairwise_of_forall fun a b ha hb => ?_)
    simp only [beq_iff_eq] at ha hb
    simp [noHeavier, ha, hb]
  have hsublist : (w.components.filter (·.kind.weight == n)).Sublist w.ordered :=
    List.sublist_mergeSort noHeavier_trans noHeavier_total hclass List.filter_sublist
  have hfilter := hsublist.filter (·.kind.weight == n)
  simp only [List.filter_filter, Bool.and_self] at hfilter
  exact (hfilter.eq_of_length (w.ordered_perm.filter _).length_eq.symm).symm

/-- A text that leaves no quoted text and no bracket open keeps its components when the lightest are
put first: the new text is read as the same components in their order by weight, where those of one
weight keep their order. It is its own text with the lightest first, and where no connective is left
over it has the same complexity. -/
theorem ofText_optimized {text : String} (h : free.run text.toList = free) :
    let w := ofText text
    let again := ofText w.optimized
    (again.components = w.ordered ∧ w.ordered.Perm w.components ∧
      (w.ordered.Pairwise fun a b => a.kind.weight ≤ b.kind.weight) ∧
      ∀ n, w.ordered.filter (·.kind.weight == n) = w.components.filter (·.kind.weight == n)) ∧
    again.optimized = w.optimized ∧ again.dangling = [] ∧
    (w.dangling = [] → again.tenths = w.tenths) := by
  intro w again
  have hsettled : ∀ c ∈ w.ordered, c.IsSettled := by
    intro c hc
    have hmem : c ∈ (read (splitWords text.toList)).components := by
      simpa [w, ofText] using w.ordered_perm.mem_iff.mp hc
    exact isSettled_of_mem_foldl (fun word => isWord_of_mem_splitWords h) (by simp) c hmem
  obtain ⟨hcomponents, hdangling⟩ := ofText_intercalate hsettled
  have hcomponents : again.components = w.ordered := hcomponents
  have hdangling : again.dangling = [] := hdangling
  have hordered : again.ordered = w.ordered := by
    rw [again.ordered_eq, hcomponents]
    exact List.mergeSort_of_pairwise w.pairwise_ordered
  refine ⟨⟨hcomponents, w.ordered_perm, w.pairwise_ordered.imp of_decide_eq_true,
    w.filter_ordered⟩, by rw [optimized, hordered, optimized], hdangling, fun hnone => ?_⟩
  rw [tenths, tenths, hcomponents, hdangling, hnone,
    (w.ordered_perm.map Component.weight).sum_nat]

/-- The connectives go with their components, and the parentheses are gone. -/
theorem ofText_optimized_of_negation_in_parentheses :
    let w := ofText "ts:[1 TO 2] AND (NOT name:*x*) OR 'a b' severity:high"
    let again := ofText w.optimized
    (w.components.map Component.toText =
        ["ts:[1 TO 2]", "AND NOT name:*x*", "OR 'a b'", "severity:high"] ∧ w.dangling = []) ∧
      again.components = w.ordered ∧ again.optimized = w.optimized ∧ again.tenths = w.tenths := by
  intro w again
  have hfree :
      free.run "ts:[1 TO 2] AND (NOT name:*x*) OR 'a b' severity:high".toList = free := by
    decide +kernel
  have hnone : w.dangling = [] := by decide
  obtain ⟨⟨hcomponents, -⟩, hagain, -, htenths⟩ := ofText_optimized hfree
  exact ⟨⟨by decide, hnone⟩, hcomponents, hagain, htenths hnone⟩

end Weighing

end Score

end NetQuery
