import NetQuery.Proofs.Score.NormalForm
import NetQuery.Proofs.Score.Patterns
import NetQuery.Proofs.Token.Quotations

namespace NetQuery

namespace Score

open Text QuoteState Lexer
open Place (free)

variable {word body cs : List Char} {text v : String} {tokens : Tokens}

/-- The texts that are read as the one quoted text with the content, from end to end. -/
structure IsQuotation (cs : List Char) (v : String) : Prop where
  /-- The quotes, and what keeps the text between them open. -/
  quotes : ∃ quote body, cs = quote :: (body ++ [quote]) ∧ isQuote quote = true ∧
    (inside quote).staysInside body = true ∧ (inside quote).run body = inside quote
  content : unquote? cs = some v.toList

/-- A text with one token, which is quoted and covers all of it, is a quotation. -/
theorem isQuotation_of_tokenize (h : tokenize text = .ok tokens)
    (hitems : tokens.items = [⟨.quoted v, ⟨0, byteLength text.toList⟩⟩]) :
    IsQuotation text.toList v := by
  obtain ⟨before, c, rest, s, hsplit, hs, htoken⟩ :=
    (laid_of_tokenize h).1.lexeme _ (List.mem_of_mem_head? (congrArg List.head? hitems))
  rw [Token.mk.injEq, Span.mk.injEq] at htoken
  obtain ⟨hsymbol, hstart, hstop⟩ := htoken
  -- the lexeme takes as many bytes as the text, so nothing stands around it
  obtain rfl : before = [] := eq_nil_of_byteLength_eq_zero (by omega)
  have hall := congrArg byteLength hsplit
  simp only [List.nil_append, byteLength_append, byteLength_nil] at hall hstop
  have hrest : s.rest = [] := eq_nil_of_byteLength_eq_zero (by omega)
  rw [hrest, List.nil_append, List.append_nil] at hsplit
  have hc : isQuote c = true := by
    rw [← isQuoted_of_scanSymbol hs, ← hsymbol]
    rfl
  obtain ⟨body, hlexeme, hstays, hrun, hcontent⟩ := exists_body_of_scanSymbol hs hc
  rw [hsplit, hlexeme]
  refine ⟨⟨c, body, rfl, hc, hstays, hrun⟩, ?_⟩
  rw [hcontent, Symbol.quoted.injEq] at hsymbol
  rw [unquote?_quoted hc, hsymbol, String.toList_ofList]

/-- Within a quoted text no character separates words, and brackets do not count. -/
theorem place_of_staysInside {state : QuoteState} (depth : Nat) (hs : state.isOutside = false)
    (h : state.staysInside body = true) :
    (⟨state, depth⟩ : Place).isUnbroken body = true ∧
      (⟨state, depth⟩ : Place).run body = ⟨state.run body, depth⟩ := by
  induction body generalizing state with
  | nil => exact ⟨rfl, rfl⟩
  | cons c body ih =>
    simp only [staysInside, Bool.and_eq_true, Bool.not_eq_true'] at h
    have hnext : (⟨state, depth⟩ : Place).next c = ⟨state.next c, depth⟩ := by
      simp [Place.next, hs]
    obtain ⟨hunbroken, hrun⟩ := ih h.1 h.2
    simp only [Place.isUnbroken, Place.run_cons, hnext, hunbroken, hrun, Place.cuts, hs, run_cons]
    exact ⟨rfl, trivial⟩

theorem Reading.add_of_role (h : role word = .condition word) (r : Reading) :
    r.add word = ⟨classify word r.pending.reverse :: r.components, [], r.grouped⟩ := by
  have hbare := eq_dropParentheses h
  unfold role at h
  unfold Reading.add
  rw [← hbare] at h ⊢
  split at h
  · cases h
  · next hnone =>
    simp only at h
    split at h
    · cases h
    · next hne => simp [hnone, hne]

namespace IsQuotation

theorem head (h : IsQuotation cs v) : ∃ quote rest, cs = quote :: rest ∧ isQuote quote = true := by
  obtain ⟨quote, body, rfl, hquote, -⟩ := h.quotes
  exact ⟨quote, _, rfl, hquote⟩

/-- Blanks and brackets do not split a quotation. -/
theorem isWord (h : IsQuotation cs v) : IsWord cs := by
  obtain ⟨quote, body, rfl, hquote, hstays, hrun⟩ := h.quotes
  have hopen : free.next quote = ⟨inside quote, 0⟩ := by
    have hbracket : quote ≠ '[' ∧ quote ≠ ']' := by
      constructor <;> rintro rfl <;> cases hquote
    simp [free, Place.next, QuoteState.next, hquote, isOutside, bracketDepth, hbracket]
  have hclose : (⟨inside quote, 0⟩ : Place).next quote = free := by
    simp [free, Place.next, QuoteState.next, isOutside, isQuote_ne_slash hquote]
  have hfirst : free.cuts quote = false := by
    rw [Bool.eq_false_iff]
    intro hcut
    have hblank := not_quote_of_isBlank (Place.eq_free_of_cuts hcut).2
    rw [hquote] at hblank
    cases hblank
  obtain ⟨hunbroken, hplace⟩ := place_of_staysInside 0 rfl hstays
  rw [hrun] at hplace
  refine ⟨List.cons_ne_nil _ _, ?_, ?_⟩
  · rw [Place.isUnbroken, hfirst, hopen, Place.isUnbroken_append, hunbroken, hplace]
    rfl
  · rw [Place.run_cons, hopen, Place.run_append, hplace, Place.run_cons, hclose, Place.run_nil]

/-- Parentheses within a quotation are its own. -/
theorem dropParentheses (h : IsQuotation cs v) : dropParentheses cs = cs := by
  obtain ⟨quote, rest, rfl, hquote⟩ := h.head
  have hne : (quote == '(') = false := by
    rw [beq_eq_false_iff_ne]
    rintro rfl
    cases hquote
  rw [dropParentheses_eq, List.dropWhile_cons_of_neg (by simp [hne]), h.content]
  rfl

/-- A quotation is weighed as one component, with nothing before or behind it. -/
theorem ofText (h : IsQuotation text.toList v) :
    Weighing.ofText text = ⟨[classify text.toList []], [], false⟩ := by
  obtain ⟨quote, rest, hcs, hquote⟩ := h.head
  have hrole : role text.toList = .condition text.toList := by
    rw [role_of_opening (hcs ▸ List.mem_cons_self) (.inl hquote), h.dropParentheses]
  simp [Weighing.ofText, h.isWord.splitWords, read, Reading.add_of_role hrole]

end IsQuotation

/-- Some colon stands outside quotes where each quote is taken to be closed by the next one of its
kind, whether or not a backslash stands before it. -/
def ShowsColon (cs : List Char) : Prop :=
  ∃ before after, cs = before ++ ':' :: after ∧ before.foldl nextQuote none = none

/-- Free text with the content: a condition on no field that looks for it anywhere. -/
def Component.IsFreeText (v : String) (c : Component) : Prop :=
  c.field = none ∧ c.kind = .contains ∧ c.value = .str v

/-- The search for the colon behind a field finds none just where none is outside quotes. -/
theorem splitFieldFrom_eq_none_iff {state : Option Char} : splitFieldFrom state cs = none ↔
    ∀ before after, cs = before ++ ':' :: after → before.foldl nextQuote state ≠ none := by
  induction cs generalizing state with
  | nil => simp [splitFieldFrom]
  | cons c rest ih =>
    rw [splitFieldFrom_cons]
    split
    · next hcolon =>
      simp only [Bool.and_eq_true, Option.isNone_iff_eq_none, beq_iff_eq] at hcolon
      obtain ⟨rfl, rfl⟩ := hcolon
      refine iff_of_false (by simp) ?_
      intro hnone
      exact hnone [] rest rfl rfl
    · next hcolon =>
      rw [Option.map_eq_none_iff, ih]
      constructor
      · rintro hnone (_ | ⟨d, before⟩) after he
        · obtain ⟨rfl, rfl⟩ := List.cons.inj he
          simpa using hcolon
        · obtain ⟨rfl, rfl⟩ := List.cons.inj he
          exact hnone before after rfl
      · intro hnone before after he
        exact hnone (c :: before) after (by rw [he, List.cons_append])

/-- Where no quote of its own kind is escaped in a quotation, the search sees it whole. -/
theorem IsQuotation.not_showsColon (h : IsQuotation cs v)
    (hescape : outside.escapesQuote cs = false) : ¬ShowsColon cs := by
  obtain ⟨quote, body, rfl, hquote, hstays, -⟩ := h.quotes
  intro hshows
  have hsome : splitFieldFrom none (quote :: (body ++ [quote])) ≠ none := by
    rw [Ne, splitFieldFrom_eq_none_iff]
    obtain ⟨before, after, hsplit, hclosed⟩ := hshows
    exact fun hnone => hnone before after hsplit hclosed
  obtain ⟨⟨name, raw⟩, hfield⟩ := Option.ne_none_iff_exists'.mp hsome
  have hout : (outside.run name).isOutside = true :=
    isOutside_of_splitFieldFrom hescape (by simp [quote?]) hfield
  have hword := splitFieldFrom_eq hfield
  have hcolon : quote ≠ ':' := by
    rintro rfl
    cases hquote
  cases name with
  | nil => exact hcolon (List.cons.inj hword).1
  | cons d name =>
    obtain ⟨rfl, hbody⟩ := List.cons.inj hword
    -- the colon is not the closing quote, so the quoted text is still open at it
    rcases List.eq_nil_or_concat raw with rfl | ⟨more, last, rfl⟩
    · exact hcolon (List.cons.inj (List.append_inj' hbody rfl).2).1
    · have hlast : body ++ [quote] = (name ++ ':' :: more) ++ [last] := by simpa using hbody
      obtain ⟨rfl, -⟩ := List.append_inj' hlast rfl
      rw [staysInside_append, Bool.and_eq_true] at hstays
      rw [run_cons, next_outside, if_pos hquote, not_outside_run rfl hstays.1] at hout
      cases hout

/-- A quotation is free text unless the search finds a colon in it. -/
theorem IsQuotation.isFreeText_iff (h : IsQuotation cs v) :
    (classify cs []).IsFreeText v ↔ ¬ShowsColon cs := by
  have hshows : ¬ShowsColon cs ↔ splitFieldFrom none cs = none := by
    rw [splitFieldFrom_eq_none_iff]
    simp [ShowsColon]
  rw [hshows]
  obtain ⟨quote, rest, rfl, hquote⟩ := h.head
  have hvalue : String.ofList ((unquote? (quote :: rest)).getD (quote :: rest)) = v := by
    rw [h.content, Option.getD_some, String.ofList_toList]
  unfold classify
  split
  · next hfield =>
    rw [hfield]
    simp [Component.IsFreeText]
  · next hnone =>
    refine iff_of_true ⟨rfl, rfl, congrArg Json.str hvalue⟩ ?_
    rw [Option.eq_none_iff_forall_ne_some]
    rintro ⟨name, raw⟩ hfield
    have hword := splitFieldFrom_eq hfield
    cases name with
    | nil =>
      obtain ⟨rfl, -⟩ := List.cons.inj hword
      cases hquote
    | cons d name => exact hnone d name raw hfield

/-- A text that is one quoted text from end to end is weighed as one component, without connectives
and with nothing left over. It is free text with the content of the token just when the search for
the colon behind a field finds none outside quotes, which is so wherever no quote of the text's own
kind is escaped, whatever colons, blanks, brackets and parentheses stand between the quotes. -/
theorem components_of_quoted (h : tokenize text = .ok tokens)
    (hitems : tokens.items = [⟨.quoted v, ⟨0, byteLength text.toList⟩⟩]) :
    ∃ c, Weighing.ofText text = ⟨[c], [], false⟩ ∧ c.connectives = [] ∧ c.text = text ∧
      (c.IsFreeText v ↔ ¬ShowsColon text.toList) ∧
      (outside.escapesQuote text.toList = false → c.IsFreeText v) := by
  have hquotation := isQuotation_of_tokenize h hitems
  refine ⟨classify text.toList [], hquotation.ofText, connectives_classify _ _, ?_,
    hquotation.isFreeText_iff, fun hescape => ?_⟩
  · rw [text_classify, String.ofList_toList]
  · exact hquotation.isFreeText_iff.mpr (hquotation.not_showsColon hescape)

/-- Colons, blanks, brackets, parentheses, quotes of the other kind and escaped backslashes. -/
theorem components_of_quoted_of_signs :
    let text := "'(a: \"b:1\" [c TO] AND \\\\)'"
    ∃ c, (Weighing.ofText text).components = [c] ∧
      c.IsFreeText "(a: \"b:1\" [c TO] AND \\)" := by
  intro text
  have hread : tokenize text =
      .ok ⟨[⟨.quoted "(a: \"b:1\" [c TO] AND \\)", ⟨0, byteLength text.toList⟩⟩], 26⟩ := by
    decide +kernel
  obtain ⟨c, hweighing, -, -, -, hfree⟩ := components_of_quoted hread rfl
  exact ⟨c, congrArg Weighing.components hweighing, hfree (by decide)⟩

/-- The quote behind the backslash is taken for the closing one, and the colon after it for the one
behind a field. -/
theorem components_of_quoted_colon :
    let text := "\"a\\\":b\""
    tokenize text = .ok ⟨[⟨.quoted "a\":b", ⟨0, byteLength text.toList⟩⟩], 7⟩ ∧
      (Weighing.ofText text).components.map (fun c => (c.field, c.kind)) =
        [(some "\"a\\\"", .eq)] ∧
      ¬∃ c ∈ (Weighing.ofText text).components, c.IsFreeText "a\":b" := by
  intro text
  have hfields : (Weighing.ofText text).components.map (fun c => (c.field, c.kind)) =
      [(some "\"a\\\"", .eq)] := by
    decide
  refine ⟨by decide +kernel, hfields, ?_⟩
  rintro ⟨c, hc, hfree⟩
  have hmem := List.mem_map_of_mem (f := fun c => (c.field, c.kind)) hc
  rw [hfields, List.mem_singleton, hfree.1] at hmem
  cases hmem

end Score

end NetQuery
