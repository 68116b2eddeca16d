import NetQuery.Proofs.Query.Acceptance
import NetQuery.Proofs.Token.Marks

namespace NetQuery

open Text

/-- Whether something, which can only be blanks, stands between a colon and the token behind it. -/
def gapBehindColon (items : List Token) : Bool :=
  (items.zip items.tail).any fun (colon, next) =>
    colon.symbol == .colon && colon.span.stop < next.span.start

theorem gapBehindColon_cons (t : Token) (items : List Token) : gapBehindColon (t :: items) =
    (t.symbol == .colon && items.head?.any (fun next => t.span.stop < next.span.start) ||
      gapBehindColon items) := by
  cases items <;> simp [gapBehindColon]

namespace Grammar

variable {s : Symbol} {ts us : List Symbol} {q : Query}

def isBracket : Symbol → Bool
  | .openParen | .closeParen | .openBracket | .closeBracket => true
  | _ => false

/-- As many brackets of a kind open as close. -/
structure Balanced (ts : List Symbol) : Prop where
  parentheses : ts.count .openParen = ts.count .closeParen
  brackets : ts.count .openBracket = ts.count .closeBracket

namespace Balanced

theorem nil : Balanced [] :=
  ⟨rfl, rfl⟩

theorem cons (hs : isBracket s = false) (h : Balanced ts) : Balanced (s :: ts) := by
  have hne (bracket : Symbol) (hbracket : isBracket bracket = true) : s ≠ bracket := by
    rintro rfl
    rw [hs] at hbracket
    cases hbracket
  constructor
  · rw [List.count_cons_of_ne (hne _ rfl), List.count_cons_of_ne (hne _ rfl), h.parentheses]
  · rw [List.count_cons_of_ne (hne _ rfl), List.count_cons_of_ne (hne _ rfl), h.brackets]

theorem append (h : Balanced ts) (h' : Balanced us) : Balanced (ts ++ us) := by
  constructor
  · rw [List.count_append, List.count_append, h.parentheses, h'.parentheses]
  · rw [List.count_append, List.count_append, h.brackets, h'.brackets]

theorem between {opening closing : Symbol} (h : Balanced ts)
    (hpair : opening = .openParen ∧ closing = .closeParen ∨
      opening = .openBracket ∧ closing = .closeBracket) :
    Balanced (opening :: (ts ++ [closing])) := by
  obtain ⟨hparentheses, hbrackets⟩ := h
  obtain ⟨rfl, rfl⟩ | ⟨rfl, rfl⟩ := hpair
  all_goals
    constructor
    · simpa using hparentheses
    · simpa using hbrackets

end Balanced

theorem Value.balanced {v : Literal} (h : Value s v) : Balanced [s] :=
  .cons (by cases h <;> rfl) .nil

theorem Bound.balanced {b : Option Literal} (h : Bound ts b) : Balanced ts := by
  cases h with
  | absent => exact .nil
  | star => exact .cons rfl .nil
  | value hv => exact hv.balanced

theorem Condition.balanced {name : String} (h : Condition name ts q) : Balanced ts := by
  cases h with
  | eq hv | ne hv | order _ hv => exact .cons rfl hv.balanced
  | @range lo hi _ _ spelling hlo hhi =>
    have hbody : Balanced (lo ++ .rangeTo spelling :: hi) :=
      hlo.balanced.append (.cons rfl hhi.balanced)
    simpa using hbody.between (.inr ⟨rfl, rfl⟩)
  | pattern => exact .cons rfl .nil
  | value hv => exact hv.balanced

theorem Derives.balanced {X : Nonterminal} (h : Derives X ts q) : Balanced ts := by
  induction h with
  | expression _ _ ihfirst ihmore | conjunction _ _ ihfirst ihmore | andBeside _ _ ihfirst ihmore =>
    exact ihfirst.append ihmore
  | orDone | andDone => exact .nil
  | orNext _ _ _ ihfirst ihmore | andNext _ _ _ ihfirst ihmore =>
    exact .cons rfl (ihfirst.append ihmore)
  | not _ _ ih => exact .cons rfl ih
  | primary _ ih => exact ih
  | group _ ih => exact ih.between (.inl ⟨rfl, rfl⟩)
  | star => exact .cons rfl .nil
  | field hcond => exact .cons rfl (.cons rfl hcond.balanced)

/-- Whether each colon has a token behind it that is no closing parenthesis. -/
def valueBehindColon : List Symbol → Bool
  | [] => true
  | s :: ts => (s != .colon || ts.head?.any (· != .closeParen)) && valueBehindColon ts

theorem valueBehindColon_cons (hs : s ≠ .colon) :
    valueBehindColon (s :: ts) = valueBehindColon ts := by
  simp [valueBehindColon, hs]

theorem valueBehindColon_of_notMem (h : .colon ∉ ts) : valueBehindColon ts = true := by
  induction ts with
  | nil => rfl
  | cons s ts ih =>
    obtain ⟨hs, hts⟩ := List.ne_and_not_mem_of_not_mem_cons h
    rw [valueBehindColon_cons (Ne.symm hs)]
    exact ih hts

theorem valueBehindColon_append (h : valueBehindColon ts = true)
    (h' : valueBehindColon us = true) : valueBehindColon (ts ++ us) = true := by
  induction ts with
  | nil => exact h'
  | cons s ts ih =>
    rw [valueBehindColon, Bool.and_eq_true] at h
    rw [List.cons_append, valueBehindColon, ih h.2, Bool.and_true]
    cases ts with
    | nil => exact Bool.or_eq_true_iff.mpr (.inl (by simpa using h.1))
    | cons t ts => exact h.1

/-- What follows a colon begins with a value, an operator or a bracket. -/
theorem Condition.valueBehindColon {name : String} (h : Condition name ts q) :
    Grammar.valueBehindColon (.colon :: ts) = true := by
  have hin := h.forall_inCondition
  have hcolon : .colon ∉ ts := fun hmem => by cases hin _ hmem
  rw [Grammar.valueBehindColon, valueBehindColon_of_notMem hcolon, Bool.and_true]
  have hhead : ∀ s ∈ ts.head?, s ≠ .closeParen := by
    rintro s hs rfl
    cases hin _ (List.mem_of_mem_head? hs)
  obtain ⟨s, rest, rfl⟩ : ∃ s rest, ts = s :: rest := by
    cases h <;> exact ⟨_, _, rfl⟩
  simpa using hhead s rfl

/-- Each colon of a phrase has a value behind it. -/
theorem Derives.valueBehindColon {X : Nonterminal} (h : Derives X ts q) :
    Grammar.valueBehindColon ts = true := by
  induction h with
  | expression _ _ ihfirst ihmore | conjunction _ _ ihfirst ihmore | andBeside _ _ ihfirst ihmore =>
    exact valueBehindColon_append ihfirst ihmore
  | orDone | andDone | star => rfl
  | orNext _ _ _ ihfirst ihmore | andNext _ _ _ ihfirst ihmore =>
    rw [valueBehindColon_cons (by simp)]
    exact valueBehindColon_append ihfirst ihmore
  | not _ _ ih =>
    rw [valueBehindColon_cons (by simp)]
    exact ih
  | primary _ ih => exact ih
  | group _ ih =>
    rw [valueBehindColon_cons (by simp)]
    exact valueBehindColon_append ih rfl
  | field hcond =>
    rw [valueBehindColon_cons (by simp)]
    exact hcond.valueBehindColon

end Grammar

namespace Hint

open Grammar Lexer QuoteState

variable {position : Nat} {cs rest : List Char} {items : List Token} {text : String}
  {tokens : Tokens} {q : Query}

theorem hasBareColon_colon (cs : List Char) : hasBareColon (':' :: cs) =
    (cs.head?.all (fun c => isBlank c || c == ')') || hasBareColon cs) := by
  cases cs <;> rfl

theorem hasBareColon_cons {c : Char} (hc : c ≠ ':') : hasBareColon (c :: cs) = hasBareColon cs :=
  hasBareColon.eq_4 c cs fun he => absurd he hc

theorem hasBareColon_append (h : ':' ∉ cs) : hasBareColon (cs ++ rest) = hasBareColon rest := by
  induction cs with
  | nil => rfl
  | cons c cs ih =>
    obtain ⟨hc, hcs⟩ := List.ne_and_not_mem_of_not_mem_cons h
    rw [List.cons_append, hasBareColon_cons (Ne.symm hc), ih hcs]

/-- The masked text goes on with a blank or a closing parenthesis, if at all, just when the next
token stands further on or is one. -/
theorem head?_maskFrom_all (h : Laid position cs items) :
    ((maskFrom outside cs).head?.all fun c => isBlank c || c == ')') =
      items.head?.all fun next => next.symbol == .closeParen || position < next.span.start := by
  cases h with
  | nil => rfl
  | @blank _ c cs _ hc h =>
    have hstart : ∀ next ∈ items.head?, position < next.span.start := by
      intro next hnext
      have := h.le_start next (List.mem_of_mem_head? hnext)
      have := c.utf8Size_pos
      omega
    rw [maskFrom_blank hc]
    cases hitems : items.head? with
    | none => simp [hc]
    | some next => simp [hc, hstart next hitems]
  | symbol hc hs _ =>
    obtain ⟨e, shown, hshown, he⟩ := exists_maskFrom_lexeme hs hc
    have hcases := maskFrom_lexeme_cases hs (by simp [marks] : (')', Symbol.closeParen) ∈ marks)
    rw [maskFrom_lexeme hs]
    rw [hshown] at hcases ⊢
    obtain ⟨hsymbol, hcons⟩ | ⟨hsymbol, hnone⟩ := hcases
    · obtain ⟨rfl, -⟩ := List.cons.inj hcons
      simp [hsymbol]
    · have hne : e ≠ ')' := fun hed => hnone (hed ▸ List.mem_cons_self)
      simp [he, beq_eq_false_iff_ne.mpr hsymbol, beq_eq_false_iff_ne.mpr hne]

/-- Where each colon has a value behind it, one seems to have none when there is a gap between. -/
theorem hasBareColon_maskFrom (h : Laid position cs items)
    (hvalues : valueBehindColon (items.map Token.symbol) = true) :
    hasBareColon (maskFrom outside cs) = gapBehindColon items := by
  induction h with
  | nil => rfl
  | @blank _ c _ _ hc _ ih =>
    have hne : c ≠ ':' := by
      rintro rfl
      cases hc
    rw [maskFrom_blank hc, hasBareColon_cons hne, ih hvalues]
  | @symbol position c cs s items _ hs h ih =>
    rw [List.map_cons, valueBehindColon, Bool.and_eq_true] at hvalues
    rw [maskFrom_lexeme hs, gapBehindColon_cons]
    obtain ⟨hsymbol, hmask⟩ | ⟨hsymbol, hnone⟩ :=
      maskFrom_lexeme_cases hs (by simp [marks] : (':', Symbol.colon) ∈ marks)
    · rw [hmask, List.singleton_append, hasBareColon_colon, head?_maskFrom_all h, ih hvalues.2]
      cases items with
      | nil => simp [hsymbol] at hvalues
      | cons next items =>
        have hne : next.symbol ≠ .closeParen := by simpa [hsymbol] using hvalues.1
        simp [hsymbol, beq_eq_false_iff_ne.mpr hne]
    · rw [hasBareColon_append hnone, ih hvalues.2]
      simp [beq_eq_false_iff_ne.mpr hsymbol]

theorem balance_maskFrom (h : Laid position cs items) {opening closing : Char}
    {opens closes : Symbol} (hopening : (opening, opens) ∈ marks)
    (hclosing : (closing, closes) ∈ marks)
    (hcount : (items.map Token.symbol).count opens = (items.map Token.symbol).count closes) :
    balance opening closing (maskFrom outside cs) = 0 := by
  rw [balance, count_maskFrom h hopening, count_maskFrom h hclosing, hcount, Int.sub_self]

/-- The text of a query hints at nothing but gaps behind its colons. -/
theorem onText_of_derives (h : tokenize text = .ok tokens)
    (hd : Derives .expression tokens.symbols q) :
    onText text = if gapBehindColon tokens.items then [emptyField] else [] := by
  obtain ⟨hlaid, -⟩ := laid_of_tokenize h
  have hparentheses : balance '(' ')' (maskFrom outside text.toList) = 0 :=
    balance_maskFrom hlaid (by simp [marks]) (by simp [marks]) hd.balanced.parentheses
  have hbrackets : balance '[' ']' (maskFrom outside text.toList) = 0 :=
    balance_maskFrom hlaid (by simp [marks]) (by simp [marks]) hd.balanced.brackets
  have hfirst : (dropBlanks (maskFrom outside text.toList)).head? ≠ some ':' := by
    rw [ne_eq, head?_dropBlanks_maskFrom hlaid (by simp [marks] : (':', Symbol.colon) ∈ marks),
      ← List.head?_map]
    obtain ⟨s, more, hsymbols, hs⟩ := hd.starts rfl
    rintro hcolon
    rw [← Tokens.symbols, hsymbols] at hcolon
    cases hcolon
    cases hs
  have hempty : hasEmptyField (maskFrom outside text.toList) = gapBehindColon tokens.items := by
    rw [hasEmptyField, hasBareColon_maskFrom hlaid hd.valueBehindColon,
      beq_eq_false_iff_ne.mpr hfirst, Bool.false_or]
  simp [onText, maskQuoted, hparentheses, hbrackets, hempty]

end Hint

namespace Verdict

variable {text : String} {entity : Option Entity} {q : Query}

/-- A query without undeclared fields leaves the hints to its text. -/
theorem hints_onQuery (h : (onQuery text entity q).isValid = true) :
    (onQuery text entity q).hints = (Hint.onText text).map Hint.message := by
  cases entity with
  | none => rfl
  | some e =>
    have hnone : q.undeclaredFields e = [] := by simpa [onQuery] using h
    simp [onQuery, hnone, Hint.all]

/-- A valid query draws the hint on a field without a value where there is a gap behind one of its
colons, and no hint elsewhere. -/
theorem hints_of_isValid (h : (ofText text entity).isValid = true) :
    ∃ tokens, tokenize text = .ok tokens ∧ (ofText text entity).hints =
      if gapBehindColon tokens.items then ["Every field needs a value, e.g. severity:high"]
      else [] := by
  obtain ⟨tokens, q, htokens, hread, hverdict⟩ | ⟨hinvalid, -⟩ := ofText_cases text entity
  · refine ⟨tokens, htokens, ?_⟩
    obtain ⟨hd, -⟩ := Query.ofTokens_eq_ok_iff_derives.mp hread
    rw [hverdict] at h ⊢
    rw [hints_onQuery h, Hint.onText_of_derives htokens hd]
    split <;> rfl
  · rw [hinvalid] at h
    cases h

/-- Colons and brackets in a quoted text are part of a value, and so draw no hint. -/
theorem hints_of_isValid_of_quoted_colon :
    let text := "message:\"note: (hi\" AND NOT (type:[1 TO 2] severity:high)"
    (ofText text (some .alarms)).isValid = true ∧
    ∃ tokens, tokenize text = .ok tokens ∧ (ofText text (some .alarms)).hints =
      if gapBehindColon tokens.items then ["Every field needs a value, e.g. severity:high"]
      else [] := by
  intro text
  have hvalid : (ofText text (some .alarms)).isValid = true := by decide +kernel
  exact ⟨hvalid, hints_of_isValid hvalid⟩

/-- A value may stand behind a blank, and is then taken for missing. -/
theorem hints_of_blank_behind_colon :
    ofText "a: 1" none = ⟨true, [], [], ["Every field needs a value, e.g. severity:high"],
      some (.field "a" (.int 1) none)⟩ := by
  decide +kernel

end Verdict

end NetQuery
