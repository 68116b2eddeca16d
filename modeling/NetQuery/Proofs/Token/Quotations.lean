import NetQuery.Proofs.Text.Segments
import NetQuery.Proofs.Token.Tiling
import NetQuery.Score.Component

namespace NetQuery

def quotedSpans (items : List Token) : List Span :=
  (items.filter (·.symbol.isQuoted)).map Token.span

theorem quotedSpans_cons (t : Token) (items : List Token) : quotedSpans (t :: items) =
    if t.symbol.isQuoted then t.span :: quotedSpans items else quotedSpans items := by
  unfold quotedSpans
  rw [List.filter_cons]
  split <;> rfl

theorem byteLength_reverse (cs : List Char) : byteLength cs.reverse = byteLength cs := by
  simp [byteLength]

namespace Text

open QuoteState Lexer

/-- The spans of the quoted stretches, of which the first one begins at the position. -/
def Segment.quotedSpans (position : Nat) : List Segment → List Span
  | [] => []
  | s :: rest =>
    let stop := position + byteLength s.chars
    if s.quoted then ⟨position, stop⟩ :: quotedSpans stop rest else quotedSpans stop rest

/-- The characters, of which the first one stands at the position, with an underscore for each one
that a span covers. -/
def maskSpans (spans : List Span) (position : Nat) : List Char → List Char
  | [] => []
  | c :: rest =>
    (if ∃ s ∈ spans, s.Covers position then '_' else c) ::
      maskSpans spans (position + c.utf8Size) rest

variable {position : Nat} {quote c : Char} {cs rest : List Char} {s : Scanned} {items : List Token}

/-- What a quoted text is made of behind its opening quote: characters that leave it open, which
unescaped are its content, and the closing quote. -/
theorem exists_body_of_scanQuoted? {q : Quoted} (hquote : quote ≠ '\\')
    (h : scanQuoted? quote cs = some q) :
    ∃ body, q.lexeme = body ++ [quote] ∧ (inside quote).staysInside body = true ∧
      (inside quote).run body = inside quote ∧ Score.unescape body = q.content := by
  fun_induction scanQuoted? quote cs generalizing q with
  | case1 => cases h
  | case2 c rest ih =>
    obtain ⟨r, hr, rfl⟩ := Option.map_eq_some_iff.mp h
    obtain ⟨body, hlexeme, hstays, hrun, hcontent⟩ := ih hr
    refine ⟨'\\' :: c :: body, ?_, ?_, ?_, ?_⟩
    · rw [hlexeme]
      rfl
    · simpa [staysInside, next, isOutside] using hstays
    · simpa [next] using hrun
    · rw [Score.unescape, hcontent]
  | case3 c rest _ hc =>
    cases h
    obtain rfl : c = quote := by simpa using hc
    exact ⟨[], rfl, rfl, rfl, rfl⟩
  | case4 => cases h
  | case5 c rest _ hc hslash ih =>
    obtain ⟨r, hr, rfl⟩ := Option.map_eq_some_iff.mp h
    obtain ⟨body, hlexeme, hstays, hrun, hcontent⟩ := ih hr
    have hnext : (inside quote).next c = inside quote := by simp [next, hc, hslash]
    have hne : c ≠ '\\' := by simpa using hslash
    refine ⟨c :: body, ?_, ?_, ?_, ?_⟩
    · rw [hlexeme]
      rfl
    · simpa [staysInside, hnext, isOutside] using hstays
    · rwa [run_cons, hnext]
    · rw [Score.unescape.eq_4 _ _ (fun _ _ he => absurd he hne) (fun he => absurd he hne), hcontent]

theorem isQuoted_wordSymbol (word : List Char) : (wordSymbol word).isQuoted = false := by
  rcases wordSymbol_cases word with (h | h | h) | ⟨-, ⟨w, h⟩ | h⟩
  all_goals
    rw [h]
    rfl

/-- A token is a quoted text just when its lexeme begins with a quote. -/
theorem isQuoted_of_scanSymbol (h : scanSymbol position c rest = .ok s) :
    s.symbol.isQuoted = isQuote c := by
  rcases scanSymbol_cases h with ⟨hc, q, -, rfl⟩ | ⟨hc, -, rfl⟩ | ⟨hc, hsign, -⟩
  · exact hc.symm
  · rw [hc]
    exact isQuoted_wordSymbol _
  · rw [hc]
    have hquoted : ∀ sign ∈ signs, sign.2.isQuoted = false := by decide
    exact hquoted _ hsign

/-- The lexeme of a quoted text: its quotes, and between them what unescaped is its content. -/
theorem exists_body_of_scanSymbol (h : scanSymbol position c rest = .ok s)
    (hc : isQuote c = true) :
    ∃ body, s.lexeme = c :: (body ++ [c]) ∧ (inside c).staysInside body = true ∧
      (inside c).run body = inside c ∧
      s.symbol = .quoted (String.ofList (Score.unescape body)) := by
  rcases scanSymbol_cases h with ⟨-, q, hq, rfl⟩ | ⟨hplain, -⟩ | ⟨hplain, -⟩
  · obtain ⟨body, hlexeme, hstays, hrun, hcontent⟩ :=
      exists_body_of_scanQuoted? (isQuote_ne_slash hc) hq
    refine ⟨body, ?_, hstays, hrun, ?_⟩
    · rw [hlexeme]
    · rw [hcontent]
  · exact absurd hc (Bool.eq_false_iff.mp hplain)
  · exact absurd hc (Bool.eq_false_iff.mp hplain)

theorem isClosed_of_scanSymbol (h : scanSymbol position c rest = .ok s) (hc : isQuote c = true) :
    IsClosed s.lexeme := by
  obtain ⟨body, hlexeme, hstays, hrun, -⟩ := exists_body_of_scanSymbol h hc
  refine ⟨c :: body, c, hlexeme, ⟨c, body, rfl, hc, hstays⟩, ?_⟩
  rw [run_cons, next_outside, if_pos hc, hrun]
  simp [next, isQuote_ne_slash hc]

theorem not_quote_of_scanSymbol (h : scanSymbol position c rest = .ok s) (hc : isQuote c = false) :
    ∀ d ∈ s.lexeme, isQuote d = false := by
  intro d hd
  exact not_quote_of_isPlain (isPlain_of_scanSymbol h hc d hd)

theorem not_quote_of_isBlank (hc : isBlank c = true) : isQuote c = false := by
  apply not_quote_of_isPlain
  simp [Lexer.isPlain, hc]

theorem quotedSpans_closeSegment (reversed : List Char) (ss : List Segment) :
    Segment.quotedSpans position (closeSegment false reversed ++ ss) =
      Segment.quotedSpans (position + byteLength reversed) ss := by
  unfold closeSegment
  split
  · next h =>
    rw [List.isEmpty_iff.mp h]
    rfl
  · rw [List.singleton_append, Segment.quotedSpans, byteLength_reverse]
    rfl

/-- The quoted stretches, found behind plain characters in `reversed`, lie where the quoted texts
among the tokens do. -/
theorem quotedSpans_segmentsFrom (h : Laid position cs items) :
    ∀ start reversed, start + byteLength reversed = position →
      Segment.quotedSpans start (segmentsFrom outside reversed cs) = quotedSpans items := by
  induction h with
  | nil =>
    intro start reversed _
    rw [segmentsFrom, ← List.append_nil (closeSegment _ _)]
    exact quotedSpans_closeSegment reversed []
  | @blank position c cs items hc _ ih =>
    intro start reversed hstart
    have hplain : ∀ d ∈ [c], isQuote d = false :=
      List.forall_mem_singleton.mpr (not_quote_of_isBlank hc)
    rw [← List.singleton_append, segmentsFrom_plain hplain]
    apply ih
    rw [byteLength_append, byteLength_reverse, byteLength_cons, byteLength_nil]
    omega
  | @symbol position c cs s items _ hs _ ih =>
    intro start reversed hstart
    have hquoted := isQuoted_of_scanSymbol hs
    rw [← scanSymbol_split hs, quotedSpans_cons, hquoted]
    cases hc : isQuote c with
    | true =>
      rw [segmentsFrom_closed (isClosed_of_scanSymbol hs hc), quotedSpans_closeSegment, hstart,
        Segment.quotedSpans, segments, ih (position + byteLength s.lexeme) [] rfl]
    | false =>
      rw [segmentsFrom_plain (not_quote_of_scanSymbol hs hc)]
      apply ih
      rw [byteLength_append, byteLength_reverse]
      omega

theorem maskFrom_append (state : QuoteState) (cs rest : List Char) :
    maskFrom state (cs ++ rest) = maskFrom state cs ++ maskFrom (state.run cs) rest := by
  induction cs generalizing state with
  | nil => rfl
  | cons c cs ih => rw [List.cons_append, maskFrom, ih, maskFrom, run_cons, List.cons_append]

theorem maskFrom_plain (h : ∀ c ∈ cs, isQuote c = false) : maskFrom outside cs = cs := by
  induction cs with
  | nil => rfl
  | cons c cs ih =>
    obtain ⟨hc, hcs⟩ := List.forall_mem_cons.mp h
    rw [maskFrom, next_outside, hc, covers, hc]
    exact congrArg (c :: ·) (ih hcs)

/-- Within a quoted text every character is masked, and so is its closing quote. -/
theorem maskFrom_inside {state : QuoteState} (hs : state.isOutside = false)
    (h : state.staysInside cs = true) (closing : Char) :
    maskFrom state (cs ++ [closing]) = List.replicate (cs.length + 1) '_' := by
  induction cs generalizing state with
  | nil =>
    rw [List.nil_append, maskFrom, covers, hs]
    rfl
  | cons c cs ih =>
    simp only [staysInside, Bool.and_eq_true, Bool.not_eq_true'] at h
    rw [List.cons_append, maskFrom, ih h.1 h.2, covers, hs]
    rfl

theorem maskFrom_of_isClosed (h : IsClosed cs) :
    maskFrom outside cs = List.replicate cs.length '_' := by
  obtain ⟨pre, closing, rfl, ⟨opening, body, rfl, hopening, hbody⟩, -⟩ := h
  rw [List.cons_append, maskFrom, next_outside, if_pos hopening, maskFrom_inside rfl hbody, covers,
    hopening]
  simp [List.replicate_succ]

theorem maskFrom_blank (hc : isBlank c = true) :
    maskFrom outside (c :: cs) = c :: maskFrom outside cs := by
  have hplain : ∀ d ∈ [c], isQuote d = false :=
    List.forall_mem_singleton.mpr (not_quote_of_isBlank hc)
  rw [← List.singleton_append, maskFrom_append, maskFrom_plain hplain, run_of_forall hplain,
    List.singleton_append]

theorem maskFrom_lexeme (h : scanSymbol position c rest = .ok s) :
    maskFrom outside (c :: rest) = maskFrom outside s.lexeme ++ maskFrom outside s.rest := by
  rw [← scanSymbol_split h, maskFrom_append, run_lexeme h]

variable {spans : List Span}

theorem maskSpans_append (position : Nat) (cs rest : List Char) :
    maskSpans spans position (cs ++ rest) =
      maskSpans spans position cs ++ maskSpans spans (position + byteLength cs) rest := by
  induction cs generalizing position with
  | nil => rfl
  | cons c cs ih =>
    rw [List.cons_append, maskSpans, ih, maskSpans, byteLength_cons, Nat.add_assoc,
      List.cons_append]

/-- Spans that begin behind the characters cover none of them. -/
theorem maskSpans_of_behind (h : ∀ s ∈ spans, position + byteLength cs ≤ s.start) :
    maskSpans spans position cs = cs := by
  induction cs generalizing position with
  | nil => rfl
  | cons c cs ih =>
    rw [byteLength_cons] at h
    have huncovered : ¬ ∃ s ∈ spans, s.Covers position := by
      intro ⟨s, hs, hcovers⟩
      have := h s hs
      have := c.utf8Size_pos
      have := hcovers.1
      omega
    rw [maskSpans, if_neg huncovered, ih]
    intro s hs
    have := h s hs
    omega

theorem maskSpans_of_within {s : Span} (hs : s ∈ spans) (hstart : s.start ≤ position)
    (hstop : position + byteLength cs ≤ s.stop) :
    maskSpans spans position cs = List.replicate cs.length '_' := by
  induction cs generalizing position with
  | nil => rfl
  | cons c cs ih =>
    have hpos := c.utf8Size_pos
    rw [byteLength_cons] at hstop
    rw [maskSpans, if_pos ⟨s, hs, hstart, by omega⟩, ih (by omega) (by omega)]
    rfl

theorem maskSpans_cons_of_past {s : Span} (h : s.stop ≤ position) :
    maskSpans (s :: spans) position cs = maskSpans spans position cs := by
  induction cs generalizing position with
  | nil => rfl
  | cons c cs ih =>
    have huncovered : ¬ s.Covers position := by
      intro hcovers
      have := hcovers.2
      omega
    rw [maskSpans, ih (by omega), maskSpans]
    simp only [List.mem_cons, exists_eq_or_imp, huncovered, false_or]

theorem le_start_of_mem_quotedSpans (h : Laid position cs items) :
    ∀ s ∈ quotedSpans items, position ≤ s.start := by
  intro s hs
  obtain ⟨t, ht, rfl⟩ := List.mem_map.mp hs
  exact h.le_start t (List.mem_filter.mp ht).1

/-- The mask covers what the quoted texts among the tokens do. -/
theorem maskFrom_eq_maskSpans (h : Laid position cs items) :
    maskFrom outside cs = maskSpans (quotedSpans items) position cs := by
  induction h with
  | nil => rfl
  | @blank position c cs items hc h ih =>
    have hbehind : maskSpans (quotedSpans items) position [c] = [c] :=
      maskSpans_of_behind (le_start_of_mem_quotedSpans h)
    have hsplit : maskSpans (quotedSpans items) position (c :: cs) = _ :=
      maskSpans_append position [c] cs
    rw [maskFrom_blank hc, ih, hsplit, hbehind]
    rfl
  | @symbol position c cs s items _ hs h ih =>
    have hbehind := le_start_of_mem_quotedSpans h
    rw [maskFrom_lexeme hs, ih, ← scanSymbol_split hs, maskSpans_append, quotedSpans_cons,
      isQuoted_of_scanSymbol hs]
    cases hc : isQuote c with
    | true =>
      rw [maskFrom_of_isClosed (isClosed_of_scanSymbol hs hc)]
      simp only [if_true]
      rw [maskSpans_of_within List.mem_cons_self (Nat.le_refl _) (Nat.le_refl _),
        maskSpans_cons_of_past (Nat.le_refl _)]
    | false =>
      rw [maskFrom_plain (not_quote_of_scanSymbol hs hc)]
      simp only [Bool.false_eq_true, if_false]
      rw [maskSpans_of_behind hbehind]

end Text

open Text QuoteState Lexer

/-- A text with quotes around it is unquoted to what is unescaped between them. -/
theorem unquote?_quoted {quote : Char} (hquote : isQuote quote = true) (body : List Char) :
    Score.unquote? (quote :: (body ++ [quote])) = some (Score.unescape body) := by
  simp [Score.unquote?, hquote]

/-- Where a text has tokens, all scans for quotes see the same quoted texts: the stretches of the
text make it up, and the quoted ones are where the quoted tokens are; the mask covers the characters
of these tokens and no others; and their lexemes are unquoted to what the tokens say. -/
theorem quotations_agree {text : String} {tokens : Tokens} (h : tokenize text = .ok tokens) :
    (segments text.toList).flatMap (·.chars) = text.toList ∧
    Segment.quotedSpans 0 (segments text.toList) = quotedSpans tokens.items ∧
    maskQuoted text.toList = maskSpans (quotedSpans tokens.items) 0 text.toList ∧
    ∀ t ∈ tokens.items, t.symbol.isQuoted = true →
      ∃ lexeme, (∀ cs, t.span.On text.toList cs ↔ cs = lexeme) ∧
        Score.unquote? lexeme = some t.symbol.text.toList := by
  obtain ⟨hlaid, -⟩ := laid_of_tokenize h
  refine ⟨flatMap_segments text.toList, ?_, ?_, ?_⟩
  · exact quotedSpans_segmentsFrom hlaid 0 [] rfl
  · exact maskFrom_eq_maskSpans hlaid
  · intro t ht hquoted
    obtain ⟨before, c, rest, s, htext, hs, rfl⟩ := hlaid.lexeme t ht
    rw [Nat.zero_add]
    have hon : Span.On text.toList s.lexeme
        ⟨byteLength before, byteLength before + byteLength s.lexeme⟩ :=
      ⟨before, s.rest, htext, rfl⟩
    have hc : isQuote c = true := (isQuoted_of_scanSymbol hs).symm.trans hquoted
    obtain ⟨body, hlexeme, -, -, hsymbol⟩ := exists_body_of_scanSymbol hs hc
    refine ⟨s.lexeme, ?_, ?_⟩
    · intro cs
      exact ⟨fun hcs => hcs.unique hon, fun hcs => hcs ▸ hon⟩
    · rw [hlexeme, unquote?_quoted hc, hsymbol, Symbol.text, String.toList_ofList]

/-- Quoted texts with escaped quotes and backslashes, with quotes of the other kind in them, and
with a character of several bytes. -/
theorem quotations_agree_of_escaped_quotes :
    let text := "name:\"x\\\"'é\" AND 'b\\\\'"
    let tokens : Tokens := ⟨[⟨.field "name", ⟨0, 4⟩⟩, ⟨.colon, ⟨4, 5⟩⟩, ⟨.quoted "x\"'é", ⟨5, 13⟩⟩,
      ⟨.logical .and "AND", ⟨14, 17⟩⟩, ⟨.quoted "b\\", ⟨18, 23⟩⟩], 23⟩
    tokenize text = .ok tokens ∧
    (segments text.toList).flatMap (·.chars) = text.toList ∧
    Segment.quotedSpans 0 (segments text.toList) = quotedSpans tokens.items ∧
    maskQuoted text.toList = maskSpans (quotedSpans tokens.items) 0 text.toList ∧
    ∀ t ∈ tokens.items, t.symbol.isQuoted = true →
      ∃ lexeme, (∀ cs, t.span.On text.toList cs ↔ cs = lexeme) ∧
        Score.unquote? lexeme = some t.symbol.text.toList := by
  intro text tokens
  have h : tokenize text = .ok tokens := by
    have hread : (tokenize text).toOption = some tokens := by decide +kernel
    cases ht : tokenize text with
    | error e =>
      rw [ht] at hread
      cases hread
    | ok found =>
      rw [ht] at hread
      exact congrArg Except.ok (Option.some.inj hread)
  exact ⟨h, quotations_agree h⟩

end NetQuery
