import NetQuery.Proofs.Token.Cutting

namespace NetQuery

open Text

/-- The characters make up the stretch of the text that the span marks off. -/
def Span.On (cs lexeme : List Char) (s : Span) : Prop :=
  ∃ before after, cs = before ++ lexeme ++ after ∧
    s = ⟨byteLength before, byteLength before + byteLength lexeme⟩

def Span.Covers (s : Span) (position : Nat) : Prop :=
  s.start ≤ position ∧ position < s.stop

instance (s : Span) (position : Nat) : Decidable (s.Covers position) :=
  inferInstanceAs (Decidable (_ ∧ _))

/-- Whether the token is a quoted text, whose content is not what stands in the text. -/
def Symbol.isQuoted : Symbol → Bool
  | quoted _ => true
  | _ => false

/-- Tokens as they lie on a text: in order and apart, each on a lexeme of its own that is its text
unless it is quoted, with nothing but blanks elsewhere, and with the end told where the text ends.
-/
structure Tokens.Tile (cs : List Char) (tokens : Tokens) : Prop where
  ordered : tokens.items.Pairwise fun s t => s.span.stop ≤ t.span.start
  lexeme : ∀ t ∈ tokens.items, ∃ lexeme, lexeme ≠ [] ∧ t.span.On cs lexeme ∧
    (t.symbol.isQuoted = false → t.symbol.text = String.ofList lexeme)
  blank : ∀ before c after, cs = before ++ c :: after →
    (∀ t ∈ tokens.items, ¬ t.span.Covers (byteLength before)) → isBlank c = true
  finish : tokens.finish = byteLength cs

/-- No token starts with the character where `after` follows it: none ever does, or it is an
exclamation mark without an equals sign behind it. -/
def StartsNone (c : Char) (after : List Char) : Prop :=
  (∀ more, tokenize (String.ofList (c :: more)) = .error (.unexpected c 0)) ∨
    c = '!' ∧ after.head? ≠ some '='

def lastBackslashes (cs : List Char) : Nat :=
  cs.foldl (fun n c => if c = '\\' then n + 1 else 0) 0

/-- No quote of the kind stands in the text unescaped, that is, behind an even number of
backslashes. -/
def Unclosed (quote : Char) (cs : List Char) : Prop :=
  ∀ body rest, cs = body ++ quote :: rest → lastBackslashes body % 2 = 1

/-- The error is at the first place of the text where no token can stand: the text in front of it
has tokens, and there stands the character that is told and that starts none, or a quote that is
never closed. -/
inductive LexError.IsFirst (cs : List Char) : LexError → Prop where
  | unexpected {before after : List Char} {c : Char} {tokens : Tokens}
      (split : cs = before ++ c :: after)
      (readable : tokenize (String.ofList before) = .ok tokens)
      (fault : StartsNone c after) : IsFirst cs (.unexpected c (byteLength before))
  | unterminated {before after : List Char} {quote : Char} {tokens : Tokens}
      (split : cs = before ++ quote :: after)
      (readable : tokenize (String.ofList before) = .ok tokens)
      (isQuote : isQuote quote = true)
      (fault : Unclosed quote after) : IsFirst cs (.unterminated (byteLength before))

theorem eq_nil_of_byteLength_eq_zero {cs : List Char} (h : byteLength cs = 0) : cs = [] := by
  cases cs with
  | nil => rfl
  | cons c cs =>
    have := c.utf8Size_pos
    rw [byteLength_cons] at h
    omega

/-- A piece with no more bytes than stand in front of a cut ends there at the latest. -/
theorem exists_append_of_byteLength_le {a b x y : List Char} (h : a ++ x = b ++ y)
    (hle : byteLength a ≤ byteLength b) : ∃ more, b = a ++ more ∧ x = more ++ y := by
  rcases List.append_eq_append_iff.mp h with ⟨more, hb, hx⟩ | ⟨more, rfl, rfl⟩
  · exact ⟨more, hb, hx⟩
  · rw [byteLength_append] at hle
    obtain rfl := eq_nil_of_byteLength_eq_zero (by omega : byteLength more = 0)
    exact ⟨[], by simp⟩

/-- A cut after a number of bytes is told from the whole. -/
theorem append_inj_of_byteLength {a b x y : List Char} (h : a ++ x = b ++ y)
    (hlength : byteLength a = byteLength b) : a = b ∧ x = y := by
  obtain ⟨more, rfl, rfl⟩ := exists_append_of_byteLength_le h (Nat.le_of_eq hlength)
  rw [byteLength_append] at hlength
  obtain rfl := eq_nil_of_byteLength_eq_zero (by omega : byteLength more = 0)
  simp

/-- A span marks off one stretch of the text. -/
theorem Span.On.unique {cs lexeme lexeme' : List Char} {s : Span} (h : s.On cs lexeme)
    (h' : s.On cs lexeme') : lexeme = lexeme' := by
  obtain ⟨before, after, rfl, rfl⟩ := h
  obtain ⟨before', after', hsplit, hspan⟩ := h'
  rw [Span.mk.injEq] at hspan
  rw [List.append_assoc, List.append_assoc] at hsplit
  obtain ⟨rfl, hrest⟩ := append_inj_of_byteLength hsplit hspan.1
  have hstop := hspan.2
  exact (append_inj_of_byteLength hrest (by omega)).1

namespace Lexer

variable {position : Nat} {c quote : Char} {cs rest : List Char} {s : Scanned}

/-- The tokens lie on the text, which begins at the position: lexemes with blanks around them. -/
inductive Laid : Nat → List Char → List Token → Prop where
  | nil {position : Nat} : Laid position [] []
  | blank {position : Nat} {c : Char} {cs : List Char} {items : List Token}
      (hc : isBlank c = true) (h : Laid (position + c.utf8Size) cs items) :
      Laid position (c :: cs) items
  | symbol {position : Nat} {c : Char} {cs : List Char} {s : Scanned} {items : List Token}
      (hc : isBlank c = false) (hs : scanSymbol position c cs = .ok s)
      (h : Laid (position + byteLength s.lexeme) s.rest items) :
      Laid position (c :: cs)
        (⟨s.symbol, ⟨position, position + byteLength s.lexeme⟩⟩ :: items)

/-- Tokens that lie on a text are the ones that are read. -/
theorem Laid.tokensFrom {items : List Token} (h : Laid position cs items) :
    tokensFrom position cs = .ok ⟨items, position + byteLength cs⟩ := by
  induction h with
  | nil => exact tokensFrom_nil
  | blank hc _ ih => rw [tokensFrom_of_blank hc, ih, byteLength_cons, Nat.add_assoc]
  | symbol hc hs _ ih =>
    rw [tokensFrom_of_symbol hc, hs]
    simp only [ih, Except.map, Tokens.after, List.singleton_append]
    rw [← scanSymbol_split hs, byteLength_append, Nat.add_assoc]

/-- A lexeme is read again where less of the text follows it. -/
theorem scanSymbol_again {more : List Char} (h : scanSymbol position c rest = .ok s)
    (hmore : ∀ d ∈ more.head?, d ∈ s.rest.head?) :
    ∃ tail, s.lexeme = c :: tail ∧
      scanSymbol position c (tail ++ more) = .ok ⟨s.symbol, s.lexeme, more⟩ := by
  have hsplit := scanSymbol_split h
  have hapart := apart_of_scanSymbol h
  obtain ⟨d, tail, htail⟩ := List.exists_cons_of_ne_nil (scanSymbol_lexeme_ne_nil h)
  rw [htail, List.cons_append, List.cons.injEq] at hsplit
  obtain ⟨rfl, hrest⟩ := hsplit
  refine ⟨tail, htail, ?_⟩
  have halone : scanSymbol position d tail = .ok ⟨s.symbol, s.lexeme, []⟩ := by
    have hrun := run_lexeme h
    rw [← hrest] at h
    rw [htail] at hrun hapart
    obtain ⟨behind, hbehind, hnone⟩ := scanSymbol_of_append h hrun hapart
    rw [List.self_eq_append_left.mp hnone] at hbehind
    exact hbehind
  have hnext : Apart (d :: tail) more := by
    intro a ha b hb
    rw [htail] at hapart
    exact hapart a ha b (hmore b hb)
  simpa using scanSymbol_append halone hnext

/-- All that a reading can come to: tokens that lie on the text, or the error of the first place
where no lexeme is read, with tokens on the text in front of it. -/
theorem tokensFrom_cases (position : Nat) (cs : List Char) :
    (∃ items, Laid position cs items ∧
      tokensFrom position cs = .ok ⟨items, position + byteLength cs⟩) ∨
    (∃ before c after items e, cs = before ++ c :: after ∧ Laid position before items ∧
      isBlank c = false ∧ scanSymbol (position + byteLength before) c after = .error e ∧
      tokensFrom position cs = .error e) := by
  induction hlen : cs.length using Nat.strongRecOn generalizing position cs with
  | ind k ih =>
    subst hlen
    cases cs with
    | nil => exact .inl ⟨[], .nil, tokensFrom_nil⟩
    | cons c cs =>
      cases hc : isBlank c with
      | true =>
        rw [tokensFrom_of_blank hc]
        rcases ih _ (by simp) (position + c.utf8Size) cs rfl with
          ⟨items, hlaid, htokens⟩ | ⟨before, d, after, items, e, rfl, hlaid, hd, hfault, herror⟩
        · refine .inl ⟨items, .blank hc hlaid, ?_⟩
          rw [htokens, byteLength_cons, Nat.add_assoc]
        · refine .inr ⟨c :: before, d, after, items, e, rfl, .blank hc hlaid, hd, ?_, herror⟩
          rwa [byteLength_cons, ← Nat.add_assoc]
      | false =>
        cases hs : scanSymbol position c cs with
        | error e =>
          refine .inr ⟨[], c, cs, [], e, rfl, .nil, hc, hs, ?_⟩
          rw [tokensFrom_of_symbol hc, hs]
        | ok s =>
          have hshort := scanSymbol_shorter hs
          have hsplit := scanSymbol_split hs
          rcases ih _ (by simp; omega) (position + byteLength s.lexeme) s.rest rfl with
            ⟨items, hlaid, -⟩ | ⟨before, d, after, items, e, hrest, hlaid, hd, hfault, herror⟩
          · have hsymbol := Laid.symbol hc hs hlaid
            exact .inl ⟨_, hsymbol, hsymbol.tokensFrom⟩
          · obtain ⟨tail, htail, hagain⟩ : ∃ tail, s.lexeme = c :: tail ∧
                scanSymbol position c (tail ++ before) = .ok ⟨s.symbol, s.lexeme, before⟩ := by
              apply scanSymbol_again hs
              intro b hb
              rw [hrest, List.head?_append, hb]
              rfl
            refine .inr
              ⟨c :: (tail ++ before), d, after, _, e, ?_, .symbol hc hagain hlaid, hd, ?_, ?_⟩
            · rw [← hsplit, hrest, htail]
              simp
            · rw [htail, Nat.add_assoc, ← byteLength_append] at hfault
              exact hfault
            · rw [tokensFrom_of_symbol hc, hs]
              simp only [herror, Except.map]

theorem laid_of_tokenize {text : String} {tokens : Tokens} (h : tokenize text = .ok tokens) :
    Laid 0 text.toList tokens.items ∧ tokens.finish = byteLength text.toList := by
  rcases tokensFrom_cases 0 text.toList with
    ⟨items, hlaid, htokens⟩ | ⟨before, c, after, items, e, -, -, -, -, herror⟩
  · obtain rfl : ⟨items, 0 + byteLength text.toList⟩ = tokens :=
      Except.ok.inj (htokens.symm.trans h)
    exact ⟨hlaid, Nat.zero_add _⟩
  · rw [tokenize, herror] at h
    cases h

/-- A lexeme that is not quoted is the text of its token. -/
theorem text_of_scanSymbol (h : scanSymbol position c rest = .ok s)
    (hquoted : s.symbol.isQuoted = false) : s.symbol.text = String.ofList s.lexeme := by
  rcases scanSymbol_cases h with ⟨-, q, -, rfl⟩ | ⟨-, -, rfl⟩ | ⟨-, hsign, -⟩
  · cases hquoted
  · exact text_wordSymbol _
  · have htext : ∀ sign ∈ signs, sign.2.text = String.ofList sign.1 := by decide
    exact htext _ hsign

theorem Laid.le_start {items : List Token} (h : Laid position cs items) :
    ∀ t ∈ items, position ≤ t.span.start := by
  induction h with
  | nil => simp
  | blank _ _ ih =>
    intro t ht
    have := ih t ht
    omega
  | symbol _ _ _ ih =>
    intro t ht
    rcases List.mem_cons.mp ht with rfl | ht
    · exact Nat.le_refl _
    · have := ih t ht
      omega

theorem Laid.ordered {items : List Token} (h : Laid position cs items) :
    items.Pairwise fun s t => s.span.stop ≤ t.span.start := by
  induction h with
  | nil => exact .nil
  | blank _ _ ih => exact ih
  | symbol _ _ hrest ih => exact .cons hrest.le_start ih

theorem Laid.lexeme {items : List Token} (h : Laid position cs items) :
    ∀ t ∈ items, ∃ before c rest s, cs = before ++ s.lexeme ++ s.rest ∧
      scanSymbol (position + byteLength before) c rest = .ok s ∧
      t = ⟨s.symbol, ⟨position + byteLength before,
        position + byteLength before + byteLength s.lexeme⟩⟩ := by
  induction h with
  | nil => simp
  | @blank position c cs items hc _ ih =>
    intro t ht
    obtain ⟨before, d, rest, s, rfl, hs, rfl⟩ := ih t ht
    rw [Nat.add_assoc, ← byteLength_cons] at hs ⊢
    exact ⟨c :: before, d, rest, s, by simp, hs, rfl⟩
  | @symbol position c cs s items hc hs _ ih =>
    intro t ht
    have hsplit := scanSymbol_split hs
    rcases List.mem_cons.mp ht with rfl | ht
    · exact ⟨[], c, cs, s, hsplit.symm, hs, rfl⟩
    · obtain ⟨before, d, rest, s', hrest, hs', rfl⟩ := ih t ht
      rw [Nat.add_assoc, ← byteLength_append] at hs' ⊢
      refine ⟨s.lexeme ++ before, d, rest, s', ?_, hs', rfl⟩
      rw [← hsplit, hrest, List.append_assoc, List.append_assoc, List.append_assoc]

/-- What no token covers is blank. -/
theorem Laid.isBlank_of_uncovered {items : List Token} (h : Laid position cs items) :
    ∀ before c after, cs = before ++ c :: after →
      (∀ t ∈ items, ¬ t.span.Covers (position + byteLength before)) → isBlank c = true := by
  induction h with
  | nil =>
    intro before c after hcs
    simp at hcs
  | @blank position d cs items hd _ ih =>
    intro before c after hcs huncovered
    cases before with
    | nil =>
      rw [List.nil_append, List.cons.injEq] at hcs
      rw [← hcs.1]
      exact hd
    | cons e before =>
      rw [List.cons_append, List.cons.injEq] at hcs
      obtain ⟨rfl, hcs⟩ := hcs
      rw [byteLength_cons, ← Nat.add_assoc] at huncovered
      exact ih before c after hcs huncovered
  | @symbol position d cs s items _ hs _ ih =>
    intro before c after hcs huncovered
    rw [← scanSymbol_split hs] at hcs
    obtain ⟨hfirst, hothers⟩ := List.forall_mem_cons.mp huncovered
    -- A character within the lexeme is covered by its token.
    have houtside : byteLength s.lexeme ≤ byteLength before := by
      simp only [Span.Covers] at hfirst
      omega
    rcases List.append_eq_append_iff.mp hcs with ⟨behind, rfl, hrest⟩ | ⟨tail, hlexeme, htail⟩
    · rw [byteLength_append, ← Nat.add_assoc] at hothers
      exact ih behind c after hrest hothers
    · cases tail with
      | nil =>
        rw [List.append_nil] at hlexeme
        subst hlexeme
        exact ih [] c after htail.symm hothers
      | cons e tail =>
        have hpos := e.utf8Size_pos
        rw [hlexeme, byteLength_append, byteLength_cons] at houtside
        omega

theorem Laid.tile {items : List Token} (h : Laid 0 cs items) :
    Tokens.Tile cs ⟨items, byteLength cs⟩ where
  ordered := h.ordered
  lexeme := by
    intro t ht
    obtain ⟨before, c, rest, s, hcs, hs, rfl⟩ := h.lexeme t ht
    rw [Nat.zero_add] at hs
    refine ⟨s.lexeme, scanSymbol_lexeme_ne_nil hs, ⟨before, s.rest, hcs, ?_⟩, text_of_scanSymbol hs⟩
    rw [Nat.zero_add]
  blank := by
    intro before c after hcs huncovered
    rw [← Nat.zero_add (byteLength before)] at huncovered
    exact h.isBlank_of_uncovered before c after hcs huncovered
  finish := rfl

/-- Two backslashes more at the front leave the parity as it is. -/
theorem foldl_backslashes_mod (body : List Char) {m n : Nat} (h : m % 2 = n % 2) :
    body.foldl (fun n c => if c = '\\' then n + 1 else 0) m % 2 =
      body.foldl (fun n c => if c = '\\' then n + 1 else 0) n % 2 := by
  induction body generalizing m n with
  | nil => exact h
  | cons c body ih =>
    rw [List.foldl_cons, List.foldl_cons]
    split
    · exact ih (by omega)
    · rfl

/-- Where no closing quote is found, each quote of the kind is escaped. -/
theorem unclosed_of_scanQuoted? (hquote : quote ≠ '\\') (h : scanQuoted? quote cs = none) :
    Unclosed quote cs := by
  intro body rest hcs
  fun_induction scanQuoted? quote cs generalizing body with
  | case1 => simp at hcs
  | case2 c tail ih =>
    cases body with
    | nil => exact absurd (List.cons.inj hcs).1.symm hquote
    | cons d body =>
      cases body with
      | nil =>
        obtain rfl : '\\' = d := (List.cons.inj hcs).1
        rfl
      | cons e body =>
        simp only [List.cons_append, List.cons.injEq] at hcs
        obtain ⟨rfl, rfl, hcs⟩ := hcs
        have hbody := ih (by simpa using h) body hcs
        rw [← hbody]
        unfold lastBackslashes
        rw [List.foldl_cons, List.foldl_cons]
        apply foldl_backslashes_mod
        split <;> rfl
  | case3 => cases h
  | case4 c tail hescape hc hslash =>
    obtain rfl : c = '\\' := by simpa using hslash
    cases body with
    | nil => exact absurd (List.cons.inj hcs).1.symm hquote
    | cons d body =>
      cases tail with
      | nil => simp at hcs
      | cons e tail => exact (hescape e tail rfl rfl).elim
  | case5 c tail hescape hc hslash ih =>
    cases body with
    | nil =>
      obtain ⟨rfl, -⟩ := List.cons.inj hcs
      simp at hc
    | cons d body =>
      rw [List.cons_append, List.cons.injEq] at hcs
      obtain ⟨rfl, hcs⟩ := hcs
      have hbody := ih (by simpa using h) body hcs
      have hne : c ≠ '\\' := by simpa using hslash
      rw [← hbody]
      unfold lastBackslashes
      rw [List.foldl_cons, if_neg hne]

/-- Where no lexeme is read, a character stands that starts none, or a quote that is never closed.
-/
theorem fault_of_scanSymbol {e : LexError} (hc : isBlank c = false)
    (h : scanSymbol position c rest = .error e) :
    (e = .unexpected c position ∧ StartsNone c rest) ∨
      (e = .unterminated position ∧ isQuote c = true ∧ Unclosed c rest) := by
  cases hquote : isQuote c with
  | true =>
    rw [scanSymbol_quote hquote] at h
    split at h
    · cases h
    · next hnone =>
      cases h
      exact .inr ⟨rfl, rfl, unclosed_of_scanQuoted? (isQuote_ne_slash hquote) hnone⟩
  | false =>
    left
    unfold scanSymbol at h
    split at h
    case h_9 =>
      split at h
      · cases h
      · next hne =>
        cases h
        refine ⟨rfl, .inr ⟨rfl, ?_⟩⟩
        intro hhead
        obtain ⟨tail, htail⟩ := List.head?_eq_some_iff.mp hhead
        exact hne tail htail
    case h_10 =>
      rw [if_neg (by simp [hquote])] at h
      split at h
      · cases h
      · next hword =>
        cases h
        refine ⟨rfl, .inl ?_⟩
        intro more
        rw [tokenize, String.toList_ofList, tokensFrom_of_symbol hc]
        have hfault : scanSymbol 0 c more = .error (.unexpected c 0) := by
          unfold scanSymbol
          split <;> simp_all
        rw [hfault]
    all_goals cases h

end Lexer

open Lexer

/-- The tokens of a text lie on it in order and apart, each as its text unless it is quoted, and
cover all of it but blanks. A text without tokens has them up to the first place where none can
stand, and this place is the one that the error tells. -/
theorem tokenize_tiles_or_first_fault (text : String) :
    match tokenize text with
    | .ok tokens => tokens.Tile text.toList
    | .error e => e.IsFirst text.toList := by
  unfold tokenize
  rcases tokensFrom_cases 0 text.toList with
    ⟨items, hlaid, htokens⟩ | ⟨before, c, after, items, e, htext, hlaid, hc, hfault, herror⟩
  · rw [htokens, Nat.zero_add]
    exact hlaid.tile
  · rw [herror]
    have hreadable : tokenize (String.ofList before) = .ok ⟨items, 0 + byteLength before⟩ := by
      rw [tokenize, String.toList_ofList]
      exact hlaid.tokensFrom
    rcases fault_of_scanSymbol hc hfault with ⟨rfl, hnone⟩ | ⟨rfl, hquote, hunclosed⟩
    · rw [Nat.zero_add]
      exact .unexpected htext hreadable hnone
    · rw [Nat.zero_add]
      exact .unterminated htext hreadable hquote hunclosed

end NetQuery
