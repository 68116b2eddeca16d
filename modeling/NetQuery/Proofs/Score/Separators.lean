import Mathlib.Data.List.ReduceOption
import NetQuery.Proofs.Score.Places

namespace NetQuery

namespace Score

open Text QuoteState
open Place (free)

/-- Some bracket stands open behind the text: from some place on, more brackets open than close,
those in quoted texts aside. -/
def InBrackets (before : List Char) : Prop :=
  ∃ behind, behind <:+ maskQuoted before ∧ behind.count ']' < behind.count '['

/-- A blank behind the text separates words unless it stands in a quoted text or in brackets. -/
def IsSeparator (before : List Char) (c : Char) : Prop :=
  isBlank c = true ∧ outside.run before = outside ∧ ¬ InBrackets before

variable {before cs reversed : List Char} {c : Char} {xs ys : List (Option Char)}

/-- The depth follows the brackets outside quoted texts. -/
theorem Place.depth_run (p : Place) (cs : List Char) :
    (p.run cs).depth = (maskFrom p.state cs).foldl bracketDepth p.depth := by
  induction cs generalizing p with
  | nil => rfl
  | cons c cs ih =>
    have hstep : bracketDepth p.depth (if p.state.covers c then '_' else c) = (p.next c).depth := by
      obtain ⟨state, depth⟩ := p
      cases hout : state.isOutside with
      | false => simp [covers, Place.next, hout, bracketDepth]
      | true =>
        cases hquote : isQuote c with
        | false => simp [covers, Place.next, hout, hquote]
        | true =>
          simp only [isQuote, Bool.or_eq_true, beq_iff_eq] at hquote
          rcases hquote with rfl | rfl <;> simp [covers, Place.next, hout, bracketDepth, isQuote]
    rw [Place.run_cons, ih, maskFrom, List.foldl_cons, hstep]
    rfl

/-- The depth is positive just where some bracket stands open; a closing one too many closes none.
-/
theorem foldl_bracketDepth_pos (depth : Nat) (cs : List Char) :
    0 < cs.foldl bracketDepth depth ↔ cs.count ']' < depth + cs.count '[' ∨
      ∃ behind, behind <:+ cs ∧ behind.count ']' < behind.count '[' := by
  induction cs generalizing depth with
  | nil => simp
  | cons c cs ih =>
    rw [List.foldl_cons, ih]
    have hsuffix : (∃ behind, behind <:+ c :: cs ∧ behind.count ']' < behind.count '[') ↔
        (c :: cs).count ']' < (c :: cs).count '[' ∨
          ∃ behind, behind <:+ cs ∧ behind.count ']' < behind.count '[' := by
      simp only [List.suffix_cons_iff, or_and_right, exists_or, exists_eq_left]
    rw [hsuffix]
    have hall : cs.count ']' < cs.count '[' →
        ∃ behind, behind <:+ cs ∧ behind.count ']' < behind.count '[' :=
      fun h => ⟨cs, List.suffix_refl cs, h⟩
    by_cases hopen : c = '['
    · subst hopen
      have hne : ('[' : Char) ≠ ']' := by decide
      rw [List.count_cons_self, List.count_cons_of_ne hne]
      grind [bracketDepth]
    · by_cases hclose : c = ']'
      · subst hclose
        rw [List.count_cons_self, List.count_cons_of_ne hopen]
        grind [bracketDepth]
      · rw [List.count_cons_of_ne hopen, List.count_cons_of_ne hclose]
        grind [bracketDepth]

theorem inBrackets_iff : InBrackets before ↔ 0 < (free.run before).depth := by
  rw [Place.depth_run]
  have hpos := foldl_bracketDepth_pos 0 (maskFrom free.state before)
  have hall : (maskFrom free.state before).count ']' < 0 + (maskFrom free.state before).count '[' →
      InBrackets before := by
    intro h
    rw [Nat.zero_add] at h
    exact ⟨maskQuoted before, List.suffix_refl _, h⟩
  exact (hpos.trans (or_iff_right_of_imp hall)).symm

/-- The splitting is at the free place outside quoted texts and brackets. -/
theorem free_run_iff : free.run before = free ↔ outside.run before = outside ∧
    ¬ InBrackets before := by
  have hstate : (free.run before).state = outside.run before := Place.state_run free before
  rw [inBrackets_iff, Nat.pos_iff_ne_zero, ← hstate]
  constructor
  · intro h
    rw [h]
    exact ⟨rfl, fun hdepth => hdepth rfl⟩
  · intro h
    obtain ⟨hout, hdepth⟩ := h
    rw [Place.mk.injEq]
    exact ⟨hout, Decidable.not_not.mp hdepth⟩

theorem cuts_iff : (free.run before).cuts c = true ↔ IsSeparator before c := by
  rw [IsSeparator, ← free_run_iff, and_comm]
  constructor
  · exact Place.eq_free_of_cuts
  · intro h
    rw [h.1]
    exact h.2

instance : Decidable (InBrackets before) :=
  decidable_of_iff _ inBrackets_iff.symm

instance : Decidable (IsSeparator before c) :=
  decidable_of_iff _ cuts_iff

/-- The text with a gap for each separator in it. -/
def marked (before : List Char) : List Char → List (Option Char)
  | [] => []
  | c :: cs => (if IsSeparator before c then none else some c) :: marked (before ++ [c]) cs

/-- What stands between the gaps, as far as there is something. -/
def pieces (xs : List (Option Char)) : List (List Char) :=
  ((xs.splitOn none).map List.reduceOption).filter (· ≠ [])

/-- The pieces together are the text without its gaps. -/
theorem flatten_pieces (xs : List (Option Char)) : (pieces xs).flatten = xs.reduceOption := by
  have hjoin : ∀ parts : List (List (Option Char)),
      (parts.map List.reduceOption).flatten = ([none].intercalate parts).reduceOption := by
    intro parts
    induction parts with
    | nil => rfl
    | cons part parts ih =>
      cases parts with
      | nil => simp
      | cons next parts =>
        rw [List.map_cons, List.flatten_cons, ih, List.intercalate_cons_cons, List.append_assoc,
          List.reduceOption_append, List.reduceOption_append]
        rfl
  rw [pieces, List.flatten_filter_ne_nil, hjoin, List.intercalate_splitOn]

theorem ne_nil_of_mem_pieces {piece : List Char} (h : piece ∈ pieces xs) : piece ≠ [] := by
  simpa using (List.mem_filter.mp h).2

/-- What stands before the first gap is one piece, unless there is nothing. -/
theorem splitOn_some (cs : List Char) : (cs.map some).splitOn none = [cs.map some] :=
  List.splitOn_eq_singleton (by simp)

theorem filter_singleton_eq_closeWord (cs : List Char) :
    [cs].filter (· ≠ []) = closeWord cs.reverse := by
  cases cs with
  | nil => rfl
  | cons c cs => simp [closeWord]

theorem reduceOption_map_some (cs : List Char) : (cs.map some).reduceOption = cs := by
  simp [List.reduceOption]

theorem pieces_some (cs : List Char) : pieces (cs.map some) = closeWord cs.reverse := by
  rw [pieces, splitOn_some, List.map_singleton, reduceOption_map_some,
    filter_singleton_eq_closeWord]

/-- A gap ends the piece in front of it. -/
theorem pieces_gap (cs : List Char) (xs : List (Option Char)) :
    pieces (cs.map some ++ none :: xs) = closeWord cs.reverse ++ pieces xs := by
  have hsplit : (cs.map some ++ none :: xs).splitOn none =
      [cs.map some] ++ xs.splitOn none := by
    rw [List.splitOn_eq_splitOnP, List.splitOnP_append_cons _ _ (by rfl),
      ← List.splitOn_eq_splitOnP, ← List.splitOn_eq_splitOnP, splitOn_some]
  rw [pieces, hsplit, List.map_append, List.filter_append, List.map_singleton,
    reduceOption_map_some, filter_singleton_eq_closeWord]
  rfl

/-- From each place on, the words are what stands between the separators. -/
theorem words_eq_pieces (before reversed cs : List Char) : (free.run before).words reversed cs =
    pieces (reversed.reverse.map some ++ marked before cs) := by
  induction cs generalizing before reversed with
  | nil => rw [Place.words_nil, marked, List.append_nil, pieces_some, List.reverse_reverse]
  | cons c cs ih =>
    have hrun : free.run (before ++ [c]) = (free.run before).next c := Place.run_append free _ _
    rw [marked]
    by_cases hcut : (free.run before).cuts c = true
    · obtain ⟨hfree, hblank⟩ := Place.eq_free_of_cuts hcut
      have hstay : free.run (before ++ [c]) = free.run before := by
        rw [hrun, hfree, Place.free_next_of_isBlank hblank]
      rw [if_pos (cuts_iff.mp hcut), Place.words_of_cuts hcut, pieces_gap, List.reverse_reverse,
        ← hstay, ih]
      rfl
    · rw [if_neg fun hsep => hcut (cuts_iff.mpr hsep),
        Place.words_of_not_cuts (Bool.not_eq_true _ ▸ hcut), ← hrun, ih]
      simp

/-- Splitting a text into words loses nothing but the separators: the words are what stands between
these, so none is empty and together they are the text without its separators. A text that ends
outside quoted texts and brackets has the same words when they are joined by blanks. -/
theorem splitWords_loses_nothing (cs : List Char) :
    splitWords cs = pieces (marked [] cs) ∧
    (splitWords cs).flatten = (marked [] cs).reduceOption ∧
    (∀ word ∈ splitWords cs, word ≠ []) ∧
    (outside.run cs = outside → ¬ InBrackets cs →
      splitWords (joinWords (splitWords cs)) = splitWords cs) := by
  have hpieces : splitWords cs = pieces (marked [] cs) := words_eq_pieces [] [] cs
  refine ⟨hpieces, ?_, ?_, ?_⟩
  · rw [hpieces, flatten_pieces]
  · intro word hword
    rw [hpieces] at hword
    exact ne_nil_of_mem_pieces hword
  · intro hout hbrackets
    have hfree : free.run cs = free := free_run_iff.mpr ⟨hout, hbrackets⟩
    have hwords : ∀ word ∈ splitWords cs, IsWord word := by
      intro word hword
      exact isWord_of_mem_splitWords hfree hword
    calc splitWords (joinWords (splitWords cs))
        = (splitWords cs).flatMap splitWords :=
          splitWords_joinWords fun word hword => (hwords word hword).whole
      _ = (splitWords cs).flatMap fun word => [word] :=
          List.flatMap_congr fun word hword => (hwords word hword).splitWords
      _ = splitWords cs := List.flatMap_singleton' _

/-- A closing bracket too many, nested brackets, an escaped quote and a wide blank. -/
theorem splitWords_loses_nothing_nested :
    (splitWords "a] [b [c] d]  'e\\' ['\u3000f".toList).map String.ofList =
      ["a]", "[b [c] d]", "'e\\' ['", "f"] ∧
    splitWords (joinWords (splitWords "a] [b [c] d]  'e\\' ['\u3000f".toList)) =
      splitWords "a] [b [c] d]  'e\\' ['\u3000f".toList :=
  ⟨by decide, (splitWords_loses_nothing _).2.2.2 (by decide) (by decide)⟩

end Score

end NetQuery
