import NetQuery.Proofs.Token.Quotations

namespace NetQuery

namespace Text

open QuoteState Lexer

variable {position : Nat} {c d : Char} {cs rest : List Char} {s : Scanned} {symbol : Symbol}
  {items : List Token}

/-- A mark is no blank and no quote, and stands in no word and over no quoted text. -/
theorem not_of_mark (hmark : (d, symbol) ∈ marks) :
    isBlank d = false ∧ isQuote d = false ∧ inWord d = false ∧ d ≠ '_' := by
  have hall : ∀ mark ∈ marks, isBlank mark.1 = false ∧ isQuote mark.1 = false ∧
      inWord mark.1 = false ∧ mark.1 ≠ '_' := by
    decide
  exact hall _ hmark

/-- The mask of a lexeme is the mark that the token says, and no other mark is in it. -/
theorem maskFrom_lexeme_cases (h : scanSymbol position c rest = .ok s)
    (hmark : (d, symbol) ∈ marks) :
    s.symbol = symbol ∧ maskFrom outside s.lexeme = [d] ∨
      s.symbol ≠ symbol ∧ d ∉ maskFrom outside s.lexeme := by
  obtain ⟨-, hquote, hword, hne⟩ := not_of_mark hmark
  by_cases hs : s.symbol = symbol
  · rw [lexeme_of_mark h hmark hs]
    exact .inl ⟨hs, maskFrom_plain (List.forall_mem_singleton.mpr hquote)⟩
  refine .inr ⟨hs, fun hd => ?_⟩
  cases hc : isQuote c with
  | true =>
    rw [maskFrom_of_isClosed (isClosed_of_scanSymbol h hc)] at hd
    exact hne (List.eq_of_mem_replicate hd)
  | false =>
    rw [maskFrom_plain (not_quote_of_scanSymbol h hc)] at hd
    have hsigns : ∀ mark ∈ marks, ∀ sign ∈ signs, mark.1 ∈ sign.1 → sign.2 = mark.2 := by decide
    rcases scanSymbol_cases h with ⟨hc', -⟩ | ⟨-, hstarts, rfl⟩ | ⟨-, hsign, -⟩
    · rw [hc] at hc'
      cases hc'
    · rw [inWord_of_mem_run (by simp [inWord, hstarts]) rest d hd] at hword
      cases hword
    · exact hs (hsigns _ hmark _ hsign hd)

theorem exists_maskFrom_lexeme (h : scanSymbol position c rest = .ok s) (hc : isBlank c = false) :
    ∃ e shown, maskFrom outside s.lexeme = e :: shown ∧ isBlank e = false := by
  have hsplit := scanSymbol_split h
  obtain ⟨d, tail, hlexeme⟩ := List.exists_cons_of_ne_nil (scanSymbol_lexeme_ne_nil h)
  rw [hlexeme, List.cons_append, List.cons.injEq] at hsplit
  obtain ⟨rfl, -⟩ := hsplit
  refine ⟨_, _, by rw [hlexeme, maskFrom], ?_⟩
  split
  · decide
  · exact hc

/-- Behind its blanks a text begins with a mark just when its first token is that mark. -/
theorem head?_dropBlanks_maskFrom (h : Laid position cs items) (hmark : (d, symbol) ∈ marks) :
    (dropBlanks (maskFrom outside cs)).head? = some d ↔
      items.head?.map Token.symbol = some symbol := by
  induction h with
  | nil => simp [maskFrom, dropBlanks]
  | blank hc _ ih =>
    rw [maskFrom_blank hc, dropBlanks, List.dropWhile_cons, if_pos hc]
    exact ih
  | symbol hc hs _ _ =>
    obtain ⟨e, shown, hshown, he⟩ := exists_maskFrom_lexeme hs hc
    have hcases := maskFrom_lexeme_cases hs hmark
    rw [maskFrom_lexeme hs, dropBlanks]
    rw [hshown] at hcases ⊢
    obtain ⟨hsymbol, hcons⟩ | ⟨hsymbol, hnone⟩ := hcases
    · obtain ⟨rfl, -⟩ := List.cons.inj hcons
      simp [he, hsymbol]
    · have hne : e ≠ d := fun hed => hnone (hed ▸ List.mem_cons_self)
      simp [he, hsymbol, hne]

/-- A mark stands in the masked text as often as its token is among the tokens. -/
theorem count_maskFrom (h : Laid position cs items) (hmark : (d, symbol) ∈ marks) :
    (maskFrom outside cs).count d = (items.map Token.symbol).count symbol := by
  induction h with
  | nil => rfl
  | @blank _ c _ _ hc _ ih =>
    have hne : c ≠ d := by
      rintro rfl
      rw [(not_of_mark hmark).1] at hc
      cases hc
    rw [maskFrom_blank hc, List.count_cons_of_ne hne, ih]
  | symbol _ hs _ ih =>
    rw [maskFrom_lexeme hs, List.count_append, ih, List.map_cons]
    obtain ⟨hsymbol, hmask⟩ | ⟨hsymbol, hnone⟩ := maskFrom_lexeme_cases hs hmark
    · rw [hmask, List.count_singleton_self, hsymbol, List.count_cons_self, Nat.add_comm]
    · rw [List.count_eq_zero.mpr hnone, List.count_cons_of_ne hsymbol, Nat.zero_add]

end Text

end NetQuery
