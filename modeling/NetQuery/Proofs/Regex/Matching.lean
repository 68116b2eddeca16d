import NetQuery.Proofs.Character.Sets
import NetQuery.Regex.Escape

namespace NetQuery.Regex

/-- A word character of ASCII or of all scripts. -/
def isWordSign (unicode : Bool) (c : Char) : Bool :=
  (if unicode then classChars 'w' else asciiClassChars 'w').contains c

def Assertion.Holds (before after : List Char) : Assertion → Prop
  | textStart => before = []
  | textEnd => after = []
  | lineStart crlf => before = [] ∨ before.getLast? = some '\n' ∨
      (crlf = true ∧ before.getLast? = some '\r' ∧ after.head? ≠ some '\n')
  | lineEnd crlf => after = [] ∨ (crlf = true ∧ after.head? = some '\r') ∨
      (after.head? = some '\n' ∧ ¬(crlf = true ∧ before.getLast? = some '\r'))
  | boundary unicode => wordBehind unicode ≠ wordAhead unicode
  | noBoundary unicode => wordBehind unicode = wordAhead unicode
  | wordStart unicode => wordBehind unicode = false ∧ wordAhead unicode = true
  | wordEnd unicode => wordBehind unicode = true ∧ wordAhead unicode = false
  | wordStartHalf unicode => wordBehind unicode = false
  | wordEndHalf unicode => wordAhead unicode = false
where
  wordBehind (unicode : Bool) : Bool := before.getLast?.any (isWordSign unicode)
  wordAhead (unicode : Bool) : Bool := after.head?.any (isWordSign unicode)

namespace Expr

/-- Whether an expression matches a text between the text before it and the text behind it. Which of
several matches is preferred does not matter here. -/
inductive Matches : Expr → (before text after : List Char) → Prop
  | empty {before after} : Matches empty before [] after
  | literal {text before after} : Matches (literal text) before text after
  | set {bytes chars c before after} (found : chars.contains c = true) :
      Matches (set bytes chars) before [c] after
  | assertion {a before after} (holds : a.Holds before after) :
      Matches (assertion a) before [] after
  | done {most greedy body before after} : Matches (times 0 most greedy body) before [] after
  | again {least most greedy body before text rest after} (left : most ≠ some 0)
      (first : Matches body before text (rest ++ after))
      (later : Matches (times (least - 1) (most.map (· - 1)) greedy body) (before ++ text) rest
        after) :
      Matches (times least most greedy body) before (text ++ rest) after
  | capture {index body before text after} (inner : Matches body before text after) :
      Matches (capture index body) before text after
  | last {before after} : Matches (sequence []) before [] after
  | next {e es before text rest after} (first : Matches e before text (rest ++ after))
      (later : Matches (sequence es) (before ++ text) rest after) :
      Matches (sequence (e :: es)) before (text ++ rest) after
  | branch {e es before text after} (mem : e ∈ es) (found : Matches e before text after) :
      Matches (choice es) before text after

def FoundIn (e : Expr) (text : List Char) : Prop :=
  ∃ before found after, text = before ++ (found ++ after) ∧ e.Matches before found after

variable {e : Expr} {es fs : List Expr} {before text after u v : List Char} {chars : CharSet}
  {bytes greedy : Bool} {c : Char} {least : Nat} {most : Option Nat}

theorem matches_empty : empty.Matches before text after ↔ text = [] := by
  constructor
  · rintro ⟨⟩
    rfl
  · rintro rfl
    exact .empty

theorem matches_literal : (literal u).Matches before text after ↔ text = u := by
  constructor
  · rintro ⟨⟩
    rfl
  · rintro rfl
    exact .literal

theorem matches_set :
    (set bytes chars).Matches before text after ↔ ∃ c, chars.contains c = true ∧ text = [c] := by
  constructor
  · rintro ⟨⟩
    next found => exact ⟨_, found, rfl⟩
  · rintro ⟨c, found, rfl⟩
    exact .set found

theorem matches_assertion {a : Assertion} :
    (assertion a).Matches before text after ↔ text = [] ∧ a.Holds before after := by
  constructor
  · rintro ⟨⟩
    next holds => exact ⟨rfl, holds⟩
  · rintro ⟨rfl, holds⟩
    exact .assertion holds

/-- A repetition ends, or its body matches once more. -/
theorem matches_times : (times least most greedy e).Matches before text after ↔
    (least = 0 ∧ text = []) ∨ (most ≠ some 0 ∧ ∃ u v, text = u ++ v ∧
      e.Matches before u (v ++ after) ∧
      (times (least - 1) (most.map (· - 1)) greedy e).Matches (before ++ u) v after) := by
  constructor
  · rintro ⟨⟩
    · exact .inl ⟨rfl, rfl⟩
    · next left first later => exact .inr ⟨left, _, _, rfl, first, later⟩
  · rintro (⟨rfl, rfl⟩ | ⟨left, u, v, rfl, first, later⟩)
    · exact .done
    · exact .again left first later

/-- A repetition of single characters matches as many of them as its counts allow. -/
theorem matches_times_chars {P : Char → Prop}
    (hbody : ∀ before text after, e.Matches before text after ↔ ∃ c, P c ∧ text = [c]) :
    (times least most greedy e).Matches before text after ↔
      (∀ c ∈ text, P c) ∧ least ≤ text.length ∧ ∀ m ∈ most, text.length ≤ m := by
  induction text generalizing least most before with
  | nil =>
    rw [matches_times]
    constructor
    · rintro (⟨rfl, -⟩ | ⟨-, u, v, htext, first, -⟩)
      · simp
      · obtain ⟨c, -, rfl⟩ := (hbody ..).mp first
        cases htext
    · rintro ⟨-, hleast, -⟩
      exact .inl ⟨Nat.le_zero.mp hleast, rfl⟩
  | cons c text ih =>
    have hbound : (most ≠ some 0 ∧ ∀ m ∈ most.map (· - 1), text.length ≤ m) ↔
        ∀ m ∈ most, (c :: text).length ≤ m := by
      cases most with
      | none => simp
      | some m =>
        simp only [ne_eq, Option.some.injEq, Option.map_some, Option.mem_some_iff, forall_eq',
          List.length_cons]
        omega
    rw [matches_times, ← hbound, List.forall_mem_cons, List.length_cons, ← Nat.sub_le_iff_le_add]
    constructor
    · rintro (⟨-, htext⟩ | ⟨left, u, v, htext, first, later⟩)
      · cases htext
      · obtain ⟨d, hd, rfl⟩ := (hbody ..).mp first
        cases htext
        obtain ⟨hall, hleast, hmost⟩ := ih.mp later
        exact ⟨⟨hd, hall⟩, hleast, left, hmost⟩
    · rintro ⟨⟨hc, hall⟩, hleast, left, hmost⟩
      exact .inr ⟨left, [c], text, rfl, (hbody ..).mpr ⟨c, hc, rfl⟩,
        ih.mpr ⟨hall, hleast, hmost⟩⟩

theorem matches_sequence_nil : (sequence []).Matches before text after ↔ text = [] := by
  constructor
  · rintro ⟨⟩
    rfl
  · rintro rfl
    exact .last

theorem matches_sequence_cons : (sequence (e :: es)).Matches before text after ↔
    ∃ u v, text = u ++ v ∧ e.Matches before u (v ++ after) ∧
      (sequence es).Matches (before ++ u) v after := by
  constructor
  · rintro ⟨⟩
    next first later => exact ⟨_, _, rfl, first, later⟩
  · rintro ⟨u, v, rfl, first, later⟩
    exact .next first later

theorem matches_sequence_singleton :
    (sequence [e]).Matches before text after ↔ e.Matches before text after := by
  rw [matches_sequence_cons]
  constructor
  · rintro ⟨u, v, rfl, first, later⟩
    obtain rfl := matches_sequence_nil.mp later
    rwa [List.append_nil]
  · intro h
    exact ⟨text, [], (List.append_nil text).symm, h, .last⟩

theorem matches_sequence_append : (sequence (es ++ fs)).Matches before text after ↔
    ∃ u v, text = u ++ v ∧ (sequence es).Matches before u (v ++ after) ∧
      (sequence fs).Matches (before ++ u) v after := by
  induction es generalizing before text with
  | nil =>
    constructor
    · intro h
      exact ⟨[], text, rfl, .last, by rwa [List.append_nil]⟩
    · rintro ⟨u, v, rfl, first, later⟩
      obtain rfl := matches_sequence_nil.mp first
      rwa [List.append_nil] at later
  | cons e es ih =>
    rw [List.cons_append, matches_sequence_cons]
    constructor
    · rintro ⟨u, rest, rfl, first, later⟩
      obtain ⟨v, w, rfl, middle, last⟩ := ih.mp later
      rw [List.append_assoc] at first last
      exact ⟨u ++ v, w, (List.append_assoc ..).symm, .next first middle, last⟩
    · rintro ⟨_, w, rfl, first, last⟩
      obtain ⟨u, v, rfl, first, middle⟩ := matches_sequence_cons.mp first
      rw [← List.append_assoc] at last
      rw [← List.append_assoc] at first
      exact ⟨u, v ++ w, List.append_assoc .., first, ih.mpr ⟨v, w, rfl, middle, last⟩⟩

/-- A set of a single character is a literal. Sets without characters are left out: their code
points would be taken for characters. -/
theorem matches_ofSet (h : chars.contains c = true) :
    (ofSet bytes chars).Matches before text after ↔
      ∃ c, chars.contains c = true ∧ text = [c] := by
  have hfilled : chars.isEmpty = false := by
    cases hranges : chars.ranges with
    | nil => simp [CharSet.contains, CharSet.hasCode, hranges] at h
    | cons r rs => simp [CharSet.isEmpty, hranges]
  unfold ofSet
  rw [if_neg (by simp [hfilled])]
  cases hsingle : chars.single? with
  | none => exact matches_set
  | some d =>
    have honly (x : Char) := CharSet.contains_iff_of_single? (x := x) h hsingle
    dsimp only [char]
    simp [matches_literal, honly]

theorem isBlank_ofSet : (ofSet bytes chars).isBlank = false := by
  unfold ofSet
  split
  · rfl
  · split <;> rfl

/-- A repetition of a set stays one, unless it is none at all or a single one. -/
theorem repeated_ofSet (hnone : most ≠ some 0) (hone : ¬(least = 1 ∧ most = some 1)) :
    repeated least most greedy (ofSet bytes chars) =
      times least most greedy (ofSet bytes chars) := by
  simp [repeated, isBlank_ofSet, hnone, hone]

theorem matches_sequence_parts :
    (sequence e.parts).Matches before text after ↔ e.Matches before text after := by
  cases e with
  | empty => exact matches_sequence_nil.trans matches_empty.symm
  | sequence es => rfl
  | _ => exact matches_sequence_singleton

theorem matches_sequence_flatMap_parts :
    (sequence (es.flatMap parts)).Matches before text after ↔
      (sequence es).Matches before text after := by
  induction es generalizing before text with
  | nil => rfl
  | cons e es ih =>
    rw [List.flatMap_cons, matches_sequence_append, matches_sequence_cons]
    simp only [matches_sequence_parts, ih]

theorem matches_sequence_literal_cons : (sequence (literal u :: es)).Matches before text after ↔
    ∃ v, text = u ++ v ∧ (sequence es).Matches (before ++ u) v after := by
  rw [matches_sequence_cons]
  constructor
  · rintro ⟨u', v, rfl, first, later⟩
    obtain rfl := matches_literal.mp first
    exact ⟨v, rfl, later⟩
  · rintro ⟨v, rfl, later⟩
    exact ⟨u, v, rfl, .literal, later⟩

theorem matches_sequence_before : (sequence (e.before es)).Matches before text after ↔
    (sequence (e :: es)).Matches before text after := by
  unfold Expr.before
  split
  · next s t es =>
    simp only [matches_sequence_literal_cons]
    constructor
    · rintro ⟨v, rfl, later⟩
      rw [← List.append_assoc] at later
      exact ⟨t ++ v, List.append_assoc .., v, rfl, later⟩
    · rintro ⟨_, rfl, v, rfl, later⟩
      rw [List.append_assoc] at later
      exact ⟨v, (List.append_assoc ..).symm, later⟩
  · rfl

theorem matches_inTurn : (inTurn es).Matches before text after ↔
    (sequence es).Matches before text after := by
  have hfold (fs : List Expr) {before text : List Char} :
      (sequence (fs.foldr Expr.before [])).Matches before text after ↔
        (sequence fs).Matches before text after := by
    induction fs generalizing before text with
    | nil => rfl
    | cons f fs ih =>
      rw [List.foldr_cons, matches_sequence_before, matches_sequence_cons, matches_sequence_cons]
      simp only [ih]
  rw [← matches_sequence_flatMap_parts, ← hfold, inTurn]
  split
  · next hnone =>
    rw [hnone]
    exact matches_empty.trans matches_sequence_nil.symm
  · next hone =>
    rw [hone]
    exact matches_sequence_singleton.symm
  · rfl

theorem before_literal_before (s t : List Char) (es : List Expr) :
    Expr.before (literal s) (Expr.before (literal t) es) = Expr.before (literal (s ++ t)) es := by
  cases es with
  | nil => rfl
  | cons e es => cases e <;> simp [Expr.before]

theorem foldr_before (es fs : List Expr) :
    (es.foldr Expr.before []).foldr Expr.before fs = es.foldr Expr.before fs := by
  have hbefore (e : Expr) (es : List Expr) : (e.before es).foldr Expr.before fs =
      e.before (es.foldr Expr.before fs) := by
    unfold Expr.before
    split
    · exact (before_literal_before ..).symm
    · rfl
  induction es with
  | nil => rfl
  | cons e es ih => rw [List.foldr_cons, hbefore, ih, List.foldr_cons]

/-- Parts that are neither empty nor sequences. -/
def ArePlain (es : List Expr) : Prop := ∀ e ∈ es, e.parts = [e]

theorem ArePlain.flatMap_parts (h : ArePlain es) : es.flatMap Expr.parts = es := by
  induction es with
  | nil => rfl
  | cons e es ih =>
    obtain ⟨he, hes⟩ := List.forall_mem_cons.mp h
    rw [List.flatMap_cons, he, ih hes, List.singleton_append]

theorem ArePlain.cons (he : e.parts = [e]) (hes : ArePlain es) : ArePlain (e.before es) := by
  unfold Expr.before
  split
  · exact List.forall_mem_cons.mpr ⟨rfl, (List.forall_mem_cons.mp hes).2⟩
  · exact List.forall_mem_cons.mpr ⟨he, hes⟩

theorem ArePlain.foldr_before (h : ArePlain es) : ArePlain (es.foldr Expr.before []) := by
  induction es with
  | nil => exact h
  | cons e es ih =>
    obtain ⟨he, hes⟩ := List.forall_mem_cons.mp h
    exact .cons he (ih hes)

/-- What plain parts bring into a sequence once they are put in turn. -/
theorem ArePlain.parts_inTurn (h : ArePlain es) :
    (inTurn es).parts = es.foldr Expr.before [] := by
  have hfolded : ArePlain (es.foldr Expr.before []) := h.foldr_before
  rw [inTurn, h.flatMap_parts]
  split
  · next hnone =>
    rw [hnone]
    rfl
  · next e hone =>
    rw [hone] at hfolded ⊢
    exact hfolded e List.mem_cons_self
  · rfl

/-- Plain parts may be put in turn before they are put in turn with others. -/
theorem ArePlain.foldr_parts_inTurn (h : ArePlain es) (fs : List Expr) :
    (inTurn es).parts.foldr Expr.before fs = (es.flatMap Expr.parts).foldr Expr.before fs := by
  rw [h.parts_inTurn, Expr.foldr_before, h.flatMap_parts]

theorem parts_ofSet : (ofSet bytes chars).parts = [ofSet bytes chars] := by
  unfold ofSet
  split
  · rfl
  · split <;> rfl

theorem parts_repeated_ofSet (hnone : most ≠ some 0) (hone : ¬(least = 1 ∧ most = some 1)) :
    (repeated least most greedy (ofSet bytes chars)).parts =
      [repeated least most greedy (ofSet bytes chars)] := by
  rw [repeated_ofSet hnone hone]
  rfl

theorem inTurn_singleton (h : e.parts = [e]) : inTurn [e] = e := by
  simp [inTurn, h, Expr.before]

end Expr

end NetQuery.Regex
