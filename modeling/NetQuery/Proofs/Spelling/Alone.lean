import NetQuery.Proofs.Spelling.Idempotence
import NetQuery.Proofs.Spelling.Respelled

namespace NetQuery.Spelling

open Text Lexer Grammar

variable {fields : List String} {words : Words} {entity : Entity} {before : Option Symbol}
  {ts ts' vs rest rest' : List Symbol} {truthy past cs u v blanks : List Char} {next : Option Char}

/-- A word where a clause may begin is the declared field of one, with its colon behind it. -/
theorem declared_of_wellPlaced {word : List Char} {next : Option Symbol} (hlong : 3 < word.length)
    (hbefore : before.any leadsOn = false)
    (h : wellPlaced (declaredBy entity) before (wordSymbol word) next = true) :
    declaredBy entity (String.ofList word) = true ∧ next = some .colon := by
  obtain (hs | hs | hs) | ⟨⟨hshort, -⟩, -⟩ := wordSymbol_cases word
  · simp only [hs, wellPlaced, hbefore, Bool.false_or, beq_iff_eq] at h
    have hword := congrArg String.toList h
    rw [String.toList_ofList] at hword
    rw [hword] at hlong
    exact absurd hlong (by decide)
  · simpa [hs, wellPlaced, hbefore] using h
  · simp [hs, wellPlaced, hbefore] at h
  · omega

/-- A text whose first token is a colon begins with it, but for blanks. -/
theorem exists_of_spells_colon (h : Spells cs (.colon :: ts)) :
    ∃ blanks behind, cs = blanks ++ ':' :: behind ∧ ∀ c ∈ blanks, isBlank c = true := by
  generalize hall : Symbol.colon :: ts = all at h
  induction h using Spells.induction with
  | nil => cases hall
  | blank c cs ts hc _ ih =>
    obtain ⟨blanks, behind, rfl, hblanks⟩ := ih hall
    exact ⟨c :: blanks, behind, rfl, List.forall_mem_cons.mpr ⟨hc, hblanks⟩⟩
  | symbol c cs s us hc hs _ _ =>
    obtain ⟨hsymbol, -⟩ := List.cons.inj hall
    obtain ⟨rfl, -⟩ := eq_colon_of_scanSymbol hs hsymbol.symm
    exact ⟨[], cs, rfl, by simp⟩

theorem head?_ne_colon_of_isQuote (h : Spells cs ts) (hcs : ∀ c ∈ cs.head?, isQuote c = true) :
    ts.head? ≠ some .colon := by
  cases cs with
  | nil => simp [spells_nil.mp h]
  | cons c cs =>
    have hquote := hcs c rfl
    have hblank : isBlank c = false := by
      simp only [isQuote, Bool.or_eq_true, beq_iff_eq] at hquote
      obtain rfl | rfl := hquote <;> decide
    obtain ⟨s, us, hs, -, rfl⟩ := (spells_symbol hblank).mp h
    rw [scanSymbol_quote hquote] at hs
    split at hs
    · cases hs
      simp
    · cases hs

/-- A name that stands alone ends the text before it, and begins behind a character that is of no
word of raw text. -/
theorem exists_name_of_standsAlone (h : standsAlone fields u.reverse next = true) :
    ∃ start field, u = start ++ field.toList ∧ field ∈ fields ∧
      (∀ c ∈ start.getLast?, inWord c = true → isWordChar c = false) ∧ closesName next = true := by
  obtain ⟨hname, -, hcloses⟩ := standsAlone_iff.mp h
  refine ⟨(u.reverse.dropWhile inBareWord).reverse, _, ?_, hname, fun c hc hword => ?_, hcloses⟩
  · rw [String.toList_ofList, lastWord, ← List.reverse_append, List.takeWhile_append_dropWhile,
      List.reverse_reverse]
  · rw [List.getLast?_reverse] at hc
    have hbare := not_of_head?_dropWhile inBareWord u.reverse c hc
    rw [inBareWord_eq] at hbare
    obtain rfl := eq_slash hword hbare
    decide +kernel

section

variable (hfields : AreNames fields)
include hfields

theorem insertFrom_blanks (truthy past v : List Char)
    (hpast : ∀ c ∈ past.head?, inBareWord c = false)
    (hblanks : ∀ c ∈ blanks, isBlank c = true) :
    ∃ behind, insertFrom fields truthy past (blanks ++ ':' :: v) = blanks ++ ':' :: behind := by
  induction blanks generalizing past with
  | nil =>
    rw [List.nil_append, insertFrom, insertion_of_not_bare hfields hpast]
    exact ⟨_, rfl⟩
  | cons b blanks ih =>
    obtain ⟨hb, hblanks⟩ := List.forall_mem_cons.mp hblanks
    have hnot : ∀ c ∈ (b :: past).head?, inBareWord c = false := by
      rintro c ⟨⟩
      exact not_bare_of_isBlank hb
    obtain ⟨behind, hbehind⟩ := ih (b :: past) hnot hblanks
    rw [List.cons_append, insertFrom, insertion_of_not_bare hfields hpast, hbehind]
    exact ⟨behind, rfl⟩

/-- In a query on declared fields, a name where a clause may begin that no operator follows at once
stands before blanks and its colon. -/
theorem exists_blanks_of_placed {field : String} (hfield : field ∈ fields)
    (hs : Spells (field.toList ++ v) ts) (hbefore : before.any leadsOn = false)
    (hplaced : placed (declaredBy entity) before ts rest = true)
    (hrest : rest.head? ≠ some .colon) (hcloses : closesName v.head? = true) :
    ∃ blank blanks behind, v = blank :: (blanks ++ ':' :: behind) ∧
      ∀ c ∈ blank :: blanks, isBlank c = true := by
  have hlong := hfields.isLong field hfield
  obtain ⟨-, us, rfl, hus⟩ := (spells_word_append
    (List.ne_nil_of_length_pos (Nat.zero_lt_of_lt hlong)) (inWord_of_mem hfields hfield) v).mp hs
  have hlength : 5 < (field.toList ++ v.takeWhile inWord).length := by
    rw [List.length_append]
    omega
  rw [placed, Bool.and_eq_true] at hplaced
  obtain ⟨hdeclared, hnext⟩ := declared_of_wellPlaced (by omega) hbefore hplaced.1
  have hword := isWord_of_declaredBy hdeclared (by omega)
  -- what goes on behind the name would do so with a slash
  have hend : v.takeWhile inWord = [] := by
    refine takeWhile_eq_nil fun c hc => ?_
    rw [Bool.eq_false_iff]
    intro hin
    obtain ⟨v, rfl⟩ := List.head?_eq_some_iff.mp hc
    have hbare := not_bare_of_closesName hcloses
    rw [inBareWord_eq] at hbare
    obtain rfl := eq_slash hin hbare
    have hslash := hword '/' (by simp [hin])
    revert hslash
    decide +kernel
  have hv : v.dropWhile inWord = v := by
    conv => rhs; rw [← List.takeWhile_append_dropWhile (p := inWord) (l := v), hend]
    rfl
  rw [hv] at hus
  cases us with
  | nil => exact absurd hnext hrest
  | cons s us =>
    obtain rfl : s = .colon := by simpa using hnext
    obtain ⟨blanks, behind, rfl, hblanks⟩ := exists_of_spells_colon hus
    cases blanks with
    | nil => cases hcloses
    | cons blank blanks => exact ⟨blank, blanks, behind, rfl, hblanks⟩

/-- No name stands alone in a query on declared fields that is one with a value inserted, too. -/
theorem not_standsAlone_of_placed (hwords : words.Fit fields)
    (hquotes : ∀ c ∈ u ++ v, isQuote c = false) (hs : Spells (u ++ v) ts)
    (hs' : Spells (u ++ ':' :: (words.spell true ++
      insertBehind fields (words.spell true) u.reverse v)) ts')
    (hplaced : placed (declaredBy entity) before ts rest = true)
    (hplaced' : placed (declaredBy entity) before ts' rest' = true)
    (hrest : rest.head? ≠ some .colon) : standsAlone fields u.reverse v.head? = false := by
  rw [Bool.eq_false_iff]
  intro halone
  obtain ⟨start, field, rfl, hfield, hstart, hcloses⟩ := exists_name_of_standsAlone halone
  have hquotes' : ∀ c ∈ start, isQuote c = false := fun c hc => hquotes c (by simp [hc])
  have hname := hfields.isLong field hfield
  -- the name begins a clause in the text with the value inserted, and so it does without it
  rw [List.append_assoc] at hs hs'
  obtain ⟨us, vs', rfl, hus, -, hvs', hapart, hleads⟩ := exists_clause hfields [] hfield hs'
    hquotes' hplaced' hstart (by simp) (.inl rfl)
  have hcut : Apart start (field.toList ++ v) := hapart.congr_head
    (by rw [List.head?_append_of_ne_nil _ (List.ne_nil_of_length_pos (Nat.zero_lt_of_lt hname))])
  obtain ⟨us', vs, rfl, hus', hvs⟩ := hs.split (run_of_forall hquotes') hcut
  obtain rfl := hus.unique hus'
  rw [placed_append, Bool.and_eq_true] at hplaced
  obtain ⟨blank, blanks, behind, rfl, hblanks⟩ :=
    exists_blanks_of_placed hfields hfield hvs hleads hplaced.2 hrest hcloses
  -- behind the inserted value stands the colon of the field
  obtain ⟨hblank, hblanks'⟩ := List.forall_mem_cons.mp hblanks
  obtain ⟨inserted, hinserted⟩ := insertFrom_blanks hfields (words.spell true)
    (blank :: (start ++ field.toList).reverse) behind
    (by rintro c ⟨⟩; exact not_bare_of_isBlank hblank) hblanks'
  rw [insertBehind, hinserted, ← List.cons_append] at hvs'
  obtain ⟨-, _, rfl, hgap⟩ := (spells_run
    (List.ne_nil_of_length_pos (hwords.isTruth true).length_le.1) (hwords.inWord true)
    (not_inWord_of_sign hblanks (.inl rfl))).mp hvs'
  obtain ⟨s, ws, rfl, hsign, -⟩ := exists_of_spells_sign hblanks (.inl rfl) hgap
  rw [List.append_cons us, List.append_cons (us ++ _)] at hplaced'
  obtain ⟨-, -, hleads', -⟩ := name_of_sign hplaced' hsign
  rw [lastOf_append] at hleads'
  cases hleads'

/-- Where a query on declared fields stays one when names that stand alone are given values in its
plain stretches, there is no such name. -/
theorem expand_eq_self_of_placed (hwords : words.Fit fields) {ss : List Segment} (h : Segmented ss)
    (hs : Spells (ss.flatMap (·.chars)) ts)
    (hs' : Spells ((ss.map (Segment.respelled (expand fields words.truthy))).flatMap (·.chars)) ts')
    (hplaced : placed (declaredBy entity) before ts [] = true)
    (hplaced' : placed (declaredBy entity) before ts' [] = true) :
    ∀ s ∈ ss, s.quoted = false → expand fields words.truthy s.chars = s.chars := by
  have hplain : ∀ cs, IsPlain cs → IsPlain (expand fields words.truthy cs) :=
    fun cs hcs => isPlain_expand hfields hwords.toLegible hcs
  induction ss generalizing ts ts' before with
  | nil => simp
  | cons s ss ih =>
    obtain ⟨us, vs, rfl, hus, hvs⟩ := h.spells_split hs
    obtain ⟨us', vs', rfl, hus', hvs'⟩ := (h.respelled hplain).spells_split hs'
    rw [placed_append, Bool.and_eq_true, List.append_nil] at hplaced hplaced'
    have hsame : (s.respelled (expand fields words.truthy)).chars = s.chars := by
      cases hq : s.quoted with
      | true => simp [Segment.respelled, hq]
      | false =>
        have hchars : (s.respelled (expand fields words.truthy)).chars =
            insertFrom fields (words.spell true) [] s.chars := by
          simp [Segment.respelled, hq, expand_eq hfields, Words.spell]
        rw [hchars] at hus' ⊢
        obtain heq | ⟨u, v, hparts, halone, hins⟩ :=
          exists_first_insertion fields (words.spell true) [] s.chars
        · exact heq
        · have hquotes := (h.isPlain List.mem_cons_self hq).2
          rw [List.append_nil] at halone hins
          rw [hins] at hus'
          rw [hparts] at hus hquotes
          have hnot := not_standsAlone_of_placed hfields hwords hquotes hus hus' hplaced.1
            hplaced'.1 (head?_ne_colon_of_isQuote hvs (h.isQuote_rest hq))
          rw [halone] at hnot
          cases hnot
    rw [hsame] at hus'
    obtain rfl := hus.unique hus'
    refine List.forall_mem_cons.mpr ⟨fun hq => ?_, ih h.of_cons hvs hvs' hplaced.2 hplaced'.2⟩
    simpa [Segment.respelled, hq] using hsame

end

end NetQuery.Spelling
