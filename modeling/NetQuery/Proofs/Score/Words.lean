import Mathlib.Data.List.Forall2
import NetQuery.Proofs.Token.Cutting
import NetQuery.Score.Component

namespace NetQuery

namespace Score

open Text QuoteState Lexer

variable {cs rest reversed word : List Char} {state : QuoteState} {depth : Nat}
  {ts part : List Symbol}

theorem spells_closeWord (h : Spells reversed.reverse ts) :
    ∃ parts, List.Forall₂ Spells (closeWord reversed) parts ∧ parts.flatten = ts := by
  unfold closeWord
  split
  · next hempty =>
    obtain rfl : reversed = [] := by simpa using hempty
    exact ⟨[], .nil, (spells_nil.mp h).symm⟩
  · exact ⟨[ts], .cons h .nil, by simp⟩

/-- The words from a place on, with the beginning of one before it, are read one by one. -/
theorem spells_wordsFrom (hstate : outside.run reversed.reverse = state)
    (h : Spells (reversed.reverse ++ cs) ts) :
    ∃ parts, List.Forall₂ Spells (wordsFrom state depth reversed cs) parts ∧
      parts.flatten = ts := by
  induction cs generalizing state depth reversed ts with
  | nil => exact spells_closeWord (by simpa using h)
  | cons c rest ih =>
    unfold wordsFrom
    split
    · next hcut =>
      simp only [Bool.and_eq_true, beq_iff_eq] at hcut
      obtain ⟨⟨hout, -⟩, hblank⟩ := hcut
      obtain rfl := eq_outside hout
      obtain ⟨us, vs, rfl, hus, hvs⟩ := h.split hstate (endsWord_of_isBlank hblank).apart
      obtain ⟨parts, hparts, rfl⟩ := spells_closeWord hus
      have hrest : Spells ([].reverse ++ rest) vs := (spells_blank hblank).mp hvs
      obtain ⟨parts', hparts', rfl⟩ := ih rfl hrest
      exact ⟨parts ++ parts', List.rel_append hparts hparts', by simp⟩
    · refine ih ?_ (by simpa using h)
      rw [List.reverse_cons, run_append, hstate]
      rfl

/-- Each word of a text is read as tokens of its own. -/
theorem spells_splitWords (h : Spells cs ts) :
    ∃ parts, List.Forall₂ Spells (splitWords cs) parts ∧ parts.flatten = ts :=
  spells_wordsFrom rfl h

def isComponent (word : List Char) : Bool :=
  let bare := dropParentheses word
  (connectiveOf? word).isNone && !bare.isEmpty && (connectiveOf? bare).isNone

/-- Reading a word adds a component just where the word is one. -/
theorem length_add (r : Reading) (word : List Char) :
    (r.add word).components.length = r.components.length + (isComponent word).toNat := by
  unfold Reading.add isComponent
  cases hword : connectiveOf? word with
  | some w => simp
  | none =>
    simp only
    split
    · next hempty => simp [hempty]
    · next hempty => cases hbare : connectiveOf? (dropParentheses word) <;> simp [hempty]

/-- A text has as many components as words that are one. -/
theorem length_components (words : List (List Char)) :
    (read words).components.length = words.countP isComponent := by
  suffices h : ∀ r : Reading, (words.foldl Reading.add r).components.length =
      r.components.length + words.countP isComponent by simpa [read] using h ⟨[], [], false⟩
  induction words with
  | nil => simp
  | cons word words ih =>
    intro r
    rw [List.foldl_cons, ih, length_add, List.countP_cons]
    cases isComponent word with
    | false => simp
    | true =>
      simp
      omega

/-- Whether a token only holds clauses together. -/
def isGlue : Symbol → Bool
  | .openParen | .closeParen | .logical .. => true
  | _ => false

theorem isAlpha_of_toUpper {c : Char} (h : c.toUpper.isAlpha = true) : c.isAlpha = true := by
  unfold Char.toUpper at h
  split at h
  · next hlower =>
    have hlow : c.isLower = true :=
      Bool.and_eq_true_iff.mpr ⟨decide_eq_true hlower.1, decide_eq_true hlower.2⟩
    exact Bool.or_eq_true_iff.mpr (.inr hlow)
  · exact h

theorem isAlpha_of_mem_name {w : Connective} {c : Char} (h : c ∈ w.name.toList) :
    c.isAlpha = true := by
  have hletters : w.name.toList.all Char.isAlpha = true := by cases w <;> decide
  exact List.all_eq_true.mp hletters c h

theorem map_toUpper_of_connectiveOf? {w : Connective} (h : connectiveOf? word = some w) :
    word.map Char.toUpper = w.name.toList := by
  have := List.find?_some h
  exact (eq_of_beq this).symm

theorem isAlpha_of_connectiveOf? {w : Connective} {c : Char} (h : connectiveOf? word = some w)
    (hc : c ∈ word) : c.isAlpha = true := by
  refine isAlpha_of_toUpper (isAlpha_of_mem_name (w := w) ?_)
  rw [← map_toUpper_of_connectiveOf? h]
  exact List.mem_map_of_mem hc

/-- A connective in any case is read as one. -/
theorem spells_connective {w : Connective} (h : connectiveOf? word = some w) :
    Spells word [.logical w (String.ofList word)] := by
  have hupper := map_toUpper_of_connectiveOf? h
  have hletters : ∀ c ∈ word, c.isAlpha = true := fun c hc => isAlpha_of_connectiveOf? h hc
  obtain ⟨c, rest, rfl⟩ : ∃ c rest, word = c :: rest := by
    refine List.exists_cons_of_ne_nil ?_
    rintro rfl
    cases w <;> cases hupper
  have hstarts (d : Char) (hd : d.isAlpha = true) : startsWord d = true := by
    simp [startsWord, Char.isAlphanum, hd]
  have hsymbol : wordSymbol (c :: rest) = .logical w (String.ofList (c :: rest)) := by
    have hplain : ((c :: rest).any fun d => d == '*' || d == '?') = false := by
      rw [List.any_eq_false]
      intro d hd hstar
      have := hletters d hd
      simp only [Bool.or_eq_true, beq_iff_eq] at hstar
      obtain rfl | rfl := hstar <;> cases this
    have htext : upperAscii (String.ofList (c :: rest)) = w.name := by
      rw [upperAscii, String.toList_ofList, hupper, String.ofList_toList]
    have hfirst : ((c :: rest).head?.any fun d => d.isAlpha || d == '_') = true := by
      simp [hletters c List.mem_cons_self]
    unfold wordSymbol keywordOrField
    rw [if_neg (by simp [hplain]), if_pos hfirst, htext]
    cases w <;> rfl
  obtain ⟨hc, hrest⟩ := List.forall_mem_cons.mp hletters
  rw [← hsymbol]
  exact spells_word (hstarts c hc) fun d hd => by simp [inWord, hstarts d (hrest d hd)]

theorem endsWord_of_closeParens (h : ∀ c ∈ cs, c = ')') : EndsWord cs := by
  intro c hc
  rw [h c (List.mem_of_head? hc)]
  decide

theorem spells_closeParens (h : ∀ c ∈ cs, c = ')') :
    ∃ ts, Spells cs ts ∧ ∀ s ∈ ts, isGlue s = true := by
  induction cs with
  | nil => exact ⟨[], spells_nil.mpr rfl, by simp⟩
  | cons c cs ih =>
    obtain ⟨rfl, hcs⟩ := List.forall_mem_cons.mp h
    obtain ⟨ts, hts, hglue⟩ := ih hcs
    have hclose : Spells [')'] [.closeParen] := spells_lexeme (by decide) rfl
    exact ⟨.closeParen :: ts, hclose.append hts (endsWord_of_closeParens hcs).apart,
      List.forall_mem_cons.mpr ⟨rfl, hglue⟩⟩

theorem spells_openParens (hcs : ∀ c ∈ cs, c = '(') (h : Spells rest ts)
    (hts : ∀ s ∈ ts, isGlue s = true) :
    ∃ us, Spells (cs ++ rest) us ∧ ∀ s ∈ us, isGlue s = true := by
  induction cs with
  | nil => exact ⟨ts, h, hts⟩
  | cons c cs ih =>
    obtain ⟨rfl, hrest⟩ := List.forall_mem_cons.mp hcs
    obtain ⟨us, hus, hglue⟩ := ih hrest
    exact ⟨.openParen :: us, hus.openParen, List.forall_mem_cons.mpr ⟨rfl, hglue⟩⟩

/-- Parentheses that are dropped stand at the two ends of a word. -/
theorem exists_parentheses (word : List Char) : ∃ opening closing,
    word = opening ++ (dropParentheses word ++ closing) ∧ (∀ c ∈ opening, c = '(') ∧
      ∀ c ∈ closing, c = ')' := by
  have hrun (p : Char) (cs : List Char) : ∀ c ∈ cs.takeWhile (· == p), c = p := fun c hc =>
    eq_of_beq (List.all_eq_true.mp List.all_takeWhile c hc)
  refine ⟨word.takeWhile (· == '('), ?_⟩
  simp only [dropParentheses]
  split
  · exact ⟨[], by simp, hrun '(' word, by simp⟩
  · refine ⟨((word.dropWhile (· == '(')).reverse.takeWhile (· == ')')).reverse, ?_, hrun '(' word,
      fun c hc => hrun ')' _ c (List.mem_reverse.mp hc)⟩
    rw [← List.reverse_append, List.takeWhile_append_dropWhile, List.reverse_reverse,
      List.takeWhile_append_dropWhile]

/-- A word that is no component is read as nothing but what holds clauses together. -/
theorem isGlue_of_not_isComponent (h : isComponent word = false) (hpart : Spells word part) :
    ∀ s ∈ part, isGlue s = true := by
  suffices hglue : ∃ ts, Spells word ts ∧ ∀ s ∈ ts, isGlue s = true by
    obtain ⟨ts, hts, hglue⟩ := hglue
    rwa [hpart.unique hts]
  have hlogical {word : List Char} {w : Connective} (h : connectiveOf? word = some w) :
      ∃ ts, Spells word ts ∧ ∀ s ∈ ts, isGlue s = true :=
    ⟨_, spells_connective h, by simp [isGlue]⟩
  cases hword : connectiveOf? word with
  | some w => exact hlogical hword
  | none =>
    have hbare : ∃ ts, Spells (dropParentheses word) ts ∧ ∀ s ∈ ts, isGlue s = true := by
      cases hcore : connectiveOf? (dropParentheses word) with
      | some w => exact hlogical hcore
      | none =>
        have hempty : dropParentheses word = [] := by simpa [isComponent, hword, hcore] using h
        exact ⟨[], by rw [hempty]; exact spells_nil.mpr rfl, by simp⟩
    obtain ⟨opening, closing, hsplit, hopening, hclosing⟩ := exists_parentheses word
    obtain ⟨ts, hts, hglue⟩ := hbare
    obtain ⟨us, hus, hglue'⟩ := spells_closeParens hclosing
    rw [hsplit]
    exact spells_openParens hopening (hts.append hus (endsWord_of_closeParens hclosing).apart)
      (List.forall_mem_append.mpr ⟨hglue, hglue'⟩)

end Score

end NetQuery
