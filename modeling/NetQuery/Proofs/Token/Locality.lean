import NetQuery.Proofs.Text.Delimited
import NetQuery.Token.Lexer

namespace NetQuery

/-- A token that stands `offset` bytes further on. -/
def Token.shift (offset : Nat) (t : Token) : Token :=
  { t with span := ⟨t.span.start + offset, t.span.stop + offset⟩ }

namespace Tokens

def shift (offset : Nat) (tokens : Tokens) : Tokens :=
  ⟨tokens.items.map (Token.shift offset), tokens.finish + offset⟩

def after (items : List Token) (tokens : Tokens) : Tokens :=
  { tokens with items := items ++ tokens.items }

def symbols (tokens : Tokens) : List Symbol :=
  tokens.items.map Token.symbol

@[simp] theorem symbols_shift (offset : Nat) (tokens : Tokens) :
    (tokens.shift offset).symbols = tokens.symbols := by
  simp [symbols, shift, Token.shift]

@[simp] theorem symbols_after (items : List Token) (tokens : Tokens) :
    (tokens.after items).symbols = items.map Token.symbol ++ tokens.symbols := by
  simp [symbols, after]

end Tokens

def LexError.shift (offset : Nat) : LexError → LexError
  | unterminated p => .unterminated (p + offset)
  | unexpected c p => .unexpected c (p + offset)

namespace Lexer

/-- No lexeme reaches into such a text from before it. -/
def EndsWord (cs : List Char) : Prop :=
  ∀ c ∈ cs.head?, inWord c = false ∧ c ≠ '='

theorem scanQuoted?_append {quote : Char} {cs : List Char} {q : Quoted} (hquote : quote ≠ '\\')
    (h : scanQuoted? quote cs = some q) (b : List Char) :
    scanQuoted? quote (cs ++ b) = some { q with rest := q.rest ++ b } := by
  fun_induction scanQuoted? quote cs generalizing q with
  | case1 => simp at h
  | case2 c rest ih =>
    obtain ⟨r, hr, rfl⟩ := Option.map_eq_some_iff.mp h
    simp [scanQuoted?, ih hr]
  | case3 c rest _ hc =>
    cases h
    obtain rfl : c = quote := by simpa using hc
    rw [List.cons_append, scanQuoted?.eq_3 _ _ _ (fun _ _ h => absurd h hquote)]
    simp
  | case4 => simp at h
  | case5 c rest hesc hc hb ih =>
    obtain ⟨r, hr, rfl⟩ := Option.map_eq_some_iff.mp h
    have hslash : c ≠ '\\' := by simpa using hb
    rw [List.cons_append, scanQuoted?.eq_3 _ _ _ (fun _ _ h => absurd h hslash)]
    simp [hc, hb, ih hr]

/-- A lexeme that begins with a quote is a quoted text. -/
theorem scanSymbol_quote {position : Nat} {c : Char} {rest : List Char}
    (hc : Text.isQuote c = true) : scanSymbol position c rest =
      match scanQuoted? c rest with
      | some q => .ok ⟨.quoted (String.ofList q.content), c :: q.lexeme, q.rest⟩
      | none => .error (.unterminated position) := by
  simp only [Text.isQuote, Bool.or_eq_true, beq_iff_eq] at hc
  obtain rfl | rfl := hc <;> rfl

/-- Whether a lexeme may go on from one character to the next one, outside quoted texts. -/
def joins (c d : Char) : Bool :=
  (inWord c && inWord d) || (d == '=' && (c == '<' || c == '>' || c == '!'))

/-- No lexeme reaches from one text into the other. -/
def Apart (a b : List Char) : Prop :=
  ∀ c ∈ a.getLast?, ∀ d ∈ b.head?, joins c d = false

theorem EndsWord.apart {a b : List Char} (h : EndsWord b) : Apart a b := by
  intro c _ d hd
  obtain ⟨hword, hne⟩ := h d hd
  simp [joins, hword, hne]

theorem Apart.suffix (cs : List Char) {a b : List Char} (h : Apart (cs ++ a) b) : Apart a b := by
  intro c hc
  exact h c (by rw [List.getLast?_append, hc]; rfl)

/-- A word that begins a text ends within it, or where the other text begins. -/
theorem Apart.span {c : Char} {rest b : List Char} (h : Apart (c :: rest) b)
    (hc : inWord c = true) : (rest ++ b).takeWhile inWord = rest.takeWhile inWord ∧
      (rest ++ b).dropWhile inWord = rest.dropWhile inWord ++ b := by
  induction rest generalizing c with
  | nil =>
    cases b with
    | nil => exact ⟨rfl, rfl⟩
    | cons d b =>
      have hd : inWord d = false := by
        have hjoin := h c rfl d rfl
        simp only [joins, hc, Bool.true_and, Bool.or_eq_false_iff] at hjoin
        exact hjoin.1
      simp [hd]
  | cons e rest ih =>
    cases he : inWord e with
    | false => simp [he]
    | true =>
      obtain ⟨htake, hdrop⟩ := ih (Apart.suffix [c] h) he
      simp [he, htake, hdrop]

/-- An operator does not go on with the equals sign of another text. -/
theorem Apart.order {c : Char} {rest b : List Char} (h : Apart (c :: rest) b)
    (hc : c = '<' ∨ c = '>' ∨ c = '!') : rest ≠ [] ∨ b.head? ≠ some '=' := by
  cases rest with
  | nil =>
    refine .inr fun hb => ?_
    have hjoin := h c rfl '=' hb
    obtain rfl | rfl | rfl := hc <;> cases hjoin
  | cons e rest => exact .inl (List.cons_ne_nil e rest)

theorem getLast?_of_scanQuoted? {quote : Char} {cs : List Char} {q : Quoted}
    (h : scanQuoted? quote cs = some q) :
    q.lexeme.getLast? = some quote := by
  fun_induction scanQuoted? quote cs generalizing q with
  | case1 => cases h
  | case2 c rest ih =>
    obtain ⟨r, hr, rfl⟩ := Option.map_eq_some_iff.mp h
    simp [List.getLast?_cons, ih hr]
  | case3 c rest _ hc =>
    cases h
    simpa using hc
  | case4 => cases h
  | case5 c rest _ _ _ ih =>
    obtain ⟨r, hr, rfl⟩ := Option.map_eq_some_iff.mp h
    simp [List.getLast?_cons, ih hr]

/-- Nothing joins a text that ends neither within a word nor in the middle of an operator. -/
theorem apart_of_last {a b : List Char} (h : ∀ c ∈ a.getLast?, inWord c = false ∧
    c ≠ '<' ∧ c ≠ '>' ∧ c ≠ '!') : Apart a b := by
  intro c hc d _
  obtain ⟨hword, hless, hgreater, hmark⟩ := h c hc
  simp [joins, hword, hless, hgreater, hmark]

theorem apart_scanOrder (c : Char) (strict loose : Comparison) (rest : List Char)
    (hc : inWord c = false) :
    Apart (scanOrder c strict loose rest).lexeme (scanOrder c strict loose rest).rest := by
  unfold scanOrder
  split
  · apply apart_of_last
    simp [inWord, startsWord]
  · next hne =>
    intro last hlast d hd
    obtain rfl : c = last := by simpa using hlast
    have hd' : d ≠ '=' := by
      rintro rfl
      obtain ⟨tail, rfl⟩ := List.head?_eq_some_iff.mp hd
      exact hne tail rfl
    simp [joins, hc, hd']

theorem inWord_of_mem_run {c : Char} (hc : inWord c = true) (rest : List Char) :
    ∀ d ∈ c :: rest.takeWhile inWord, inWord d = true :=
  List.forall_mem_cons.mpr ⟨hc, fun d hd => List.all_eq_true.mp List.all_takeWhile d hd⟩

theorem apart_word {c : Char} (hc : inWord c = true) (rest : List Char) :
    Apart (c :: rest.takeWhile inWord) (rest.dropWhile inWord) := by
  intro last hlast d hd
  have hd' := Text.not_of_head?_dropWhile inWord rest d hd
  have hword : inWord last = true := inWord_of_mem_run hc rest last (List.mem_of_getLast? hlast)
  have hends : ∀ e : Char, inWord e = false → last ≠ e := by
    intro e he hle
    rw [hle, he] at hword
    cases hword
  simp [joins, hd', hends '<' (by decide), hends '>' (by decide), hends '!' (by decide)]

/-- The lexemes that are neither words nor quoted texts, with what they say. -/
def signs : List (List Char × Symbol) :=
  [(['('], .openParen), ([')'], .closeParen), (['['], .openBracket), ([']'], .closeBracket),
    ([':'], .colon), (['='], .operator .eq), (['!', '='], .operator .ne),
    (['>'], .operator (.order .gt)), (['>', '='], .operator (.order .ge)),
    (['<'], .operator (.order .lt)), (['<', '='], .operator (.order .le))]

/-- All that a lexeme can be: a quoted text, a word, or a sign as long as it can be. -/
theorem scanSymbol_cases {position : Nat} {c : Char} {rest : List Char} {s : Scanned}
    (h : scanSymbol position c rest = .ok s) :
    (Text.isQuote c = true ∧ ∃ q, scanQuoted? c rest = some q ∧
      s = ⟨.quoted (String.ofList q.content), c :: q.lexeme, q.rest⟩) ∨
    (Text.isQuote c = false ∧ startsWord c = true ∧
      s = ⟨wordSymbol (c :: rest.takeWhile inWord), c :: rest.takeWhile inWord,
        rest.dropWhile inWord⟩) ∨
    (Text.isQuote c = false ∧ (s.lexeme, s.symbol) ∈ signs ∧ Apart s.lexeme s.rest) := by
  cases hc : Text.isQuote c with
  | true =>
    rw [scanSymbol_quote hc] at h
    split at h
    · next q hq =>
      cases h
      exact .inl ⟨rfl, q, hq, rfl⟩
    · cases h
  | false =>
    unfold scanSymbol at h
    split at h
    case h_7 | h_8 =>
      cases h
      refine .inr (.inr ⟨rfl, ?_, apart_scanOrder _ _ _ rest (by decide)⟩)
      unfold scanOrder
      split <;> simp [signs]
    case h_9 =>
      split at h
      · cases h
        refine .inr (.inr ⟨rfl, by simp [signs], apart_of_last ?_⟩)
        simp [inWord, startsWord]
      · cases h
    case h_10 =>
      rw [if_neg (by simp [hc])] at h
      split at h
      · next hword =>
        cases h
        exact .inr (.inl ⟨rfl, hword, rfl⟩)
      · cases h
    all_goals
      cases h
      refine .inr (.inr ⟨rfl, by simp [signs], apart_of_last ?_⟩)
      simp [inWord, startsWord]

/-- A lexeme is as long as it can be: what follows does not join it. -/
theorem apart_of_scanSymbol {position : Nat} {c : Char} {rest : List Char} {s : Scanned}
    (h : scanSymbol position c rest = .ok s) : Apart s.lexeme s.rest := by
  rcases scanSymbol_cases h with ⟨hc, q, hq, rfl⟩ | ⟨-, hword, rfl⟩ | ⟨-, -, hapart⟩
  · apply apart_of_last
    intro last hlast
    rw [List.getLast?_cons, getLast?_of_scanQuoted? hq] at hlast
    obtain rfl : c = last := by simpa using hlast
    simp only [Text.isQuote, Bool.or_eq_true, beq_iff_eq] at hc
    rcases hc with rfl | rfl <;> simp [inWord, startsWord]
  · exact apart_word (by simp [inWord, hword]) rest
  · exact hapart

theorem scanOrder_append {c : Char} {strict loose : Comparison} {rest b : List Char}
    (h : rest ≠ [] ∨ b.head? ≠ some '=') : scanOrder c strict loose (rest ++ b) =
      { scanOrder c strict loose rest with rest := (scanOrder c strict loose rest).rest ++ b } := by
  cases rest with
  | nil =>
    cases b with
    | nil => rfl
    | cons d b =>
      have hd : d ≠ '=' := by simpa using h
      simp [scanOrder, hd]
  | cons d rest =>
    by_cases hd : d = '='
    · subst hd
      rfl
    · simp [scanOrder, hd]

/-- A lexeme is the same when the text goes on with what it does not reach into. -/
theorem scanSymbol_append {position : Nat} {c : Char} {rest b : List Char} {s : Scanned}
    (h : scanSymbol position c rest = .ok s) (hapart : Apart (c :: rest) b) :
    scanSymbol position c (rest ++ b) = .ok { s with rest := s.rest ++ b } := by
  cases hc : Text.isQuote c with
  | true =>
    have hslash : c ≠ '\\' := by
      rintro rfl
      cases hc
    rw [scanSymbol_quote hc] at h ⊢
    split at h
    · next q hq =>
      cases h
      simp [scanQuoted?_append hslash hq b]
    · cases h
  | false =>
    unfold scanSymbol at h ⊢
    split at h
    case h_7 | h_8 =>
      cases h
      exact congrArg Except.ok (scanOrder_append (hapart.order (by simp)))
    case h_9 =>
      split at h
      · cases h
        rfl
      · cases h
    case h_10 =>
      rw [if_neg (by simp [hc])] at h ⊢
      split at h
      · next hword =>
        obtain ⟨htake, hdrop⟩ := hapart.span (by simp [inWord, hword])
        cases h
        simp [hword, htake, hdrop]
      · cases h
    all_goals
      cases h
      rfl

variable {position : Nat} {c : Char} {cs : List Char}

/-- A step of the reading: blanks, a lexeme, and the tokens after it. -/
theorem tokensFrom_eq (position : Nat) (cs : List Char) :
    tokensFrom position cs =
      let start := position + byteLength (cs.takeWhile Text.isBlank)
      match cs.dropWhile Text.isBlank with
      | [] => .ok ⟨[], start⟩
      | c :: rest =>
        match scanSymbol start c rest with
        | .error e => .error e
        | .ok s =>
          (tokensFrom (start + byteLength s.lexeme) s.rest).map
            (Tokens.after [⟨s.symbol, ⟨start, start + byteLength s.lexeme⟩⟩]) := by
  conv => lhs; rw [tokensFrom]
  simp only
  split
  · next hd =>
    rw [hd]
  · next c rest hd =>
    rw [hd]
    simp only
    split
    · next e hs => simp only [hs]
    · next s hs =>
      simp only [hs]
      split
      · next e he => simp only [he, Except.map]
      · next tokens ht => simp only [ht, Except.map, Tokens.after, List.singleton_append]

theorem tokensFrom_nil : tokensFrom position [] = .ok ⟨[], position⟩ := by
  rw [tokensFrom_eq]
  rfl

theorem tokensFrom_of_blank (hc : Text.isBlank c = true) :
    tokensFrom position (c :: cs) = tokensFrom (position + c.utf8Size) cs := by
  rw [tokensFrom_eq, tokensFrom_eq (position + c.utf8Size)]
  simp only [List.takeWhile_cons, List.dropWhile_cons, hc, if_true, byteLength_cons, Nat.add_assoc]

theorem tokensFrom_of_allBlank (h : ∀ c ∈ cs, Text.isBlank c = true) :
    tokensFrom position cs = .ok ⟨[], position + byteLength cs⟩ := by
  induction cs generalizing position with
  | nil => exact tokensFrom_nil
  | cons c cs ih =>
    obtain ⟨hc, hcs⟩ := List.forall_mem_cons.mp h
    rw [tokensFrom_of_blank hc, ih hcs, byteLength_cons, Nat.add_assoc]

theorem tokensFrom_of_symbol (hc : Text.isBlank c = false) :
    tokensFrom position (c :: cs) =
      match scanSymbol position c cs with
      | .error e => .error e
      | .ok s =>
        (tokensFrom (position + byteLength s.lexeme) s.rest).map
          (Tokens.after [⟨s.symbol, ⟨position, position + byteLength s.lexeme⟩⟩]) := by
  rw [tokensFrom_eq]
  simp only [List.takeWhile_cons, List.dropWhile_cons, hc, Bool.false_eq_true, if_false,
    byteLength_nil, Nat.add_zero]

theorem scanSymbol_shift (offset : Nat) (c : Char) (rest : List Char) :
    scanSymbol (position + offset) c rest =
      (scanSymbol position c rest).mapError (LexError.shift offset) := by
  unfold scanSymbol
  split
  case h_9 => split <;> rfl
  case h_10 =>
    split
    · split <;> rfl
    · split <;> rfl
  all_goals rfl

/-- The tokens of a text are the same wherever it stands, but for their places. -/
theorem tokensFrom_shift (offset : Nat) (cs : List Char) :
    tokensFrom (position + offset) cs =
      ((tokensFrom position cs).map (Tokens.shift offset)).mapError (LexError.shift offset) := by
  induction hlen : cs.length using Nat.strongRecOn generalizing position cs with
  | ind k ih =>
    subst hlen
    cases cs with
    | nil =>
      rw [tokensFrom_nil, tokensFrom_nil]
      rfl
    | cons c rest =>
      cases hc : Text.isBlank c with
      | true =>
        rw [tokensFrom_of_blank hc, tokensFrom_of_blank hc, Nat.add_right_comm,
          ih _ (by simp) rest rfl]
      | false =>
        rw [tokensFrom_of_symbol hc, tokensFrom_of_symbol hc]
        have hshift : scanSymbol (position + offset) c rest = _ := scanSymbol_shift offset c rest
        cases hs : scanSymbol position c rest with
        | error e =>
          rw [hs] at hshift
          rw [show scanSymbol (position + offset) c rest = .error (e.shift offset) from hshift]
          rfl
        | ok s =>
          have hshort := scanSymbol_shorter hs
          rw [hs] at hshift
          rw [show scanSymbol (position + offset) c rest = .ok s from hshift]
          simp only
          rw [Nat.add_right_comm, ih _ (by simp; omega) s.rest rfl]
          cases tokensFrom (position + byteLength s.lexeme) s.rest with
          | error e => rfl
          | ok more =>
            refine congrArg Except.ok ?_
            simp [Tokens.after, Tokens.shift, Token.shift]

/-- The text is read as tokens that say this. -/
def Spells (cs : List Char) (ts : List Symbol) : Prop :=
  ∃ tokens, tokensFrom 0 cs = .ok tokens ∧ tokens.symbols = ts

theorem Spells.at {ts : List Symbol} (h : Spells cs ts) (position : Nat) :
    ∃ tokens, tokensFrom position cs = .ok tokens ∧ tokens.symbols = ts := by
  obtain ⟨tokens, ht, rfl⟩ := h
  have hshift : tokensFrom (0 + position) cs = _ := tokensFrom_shift position cs
  rw [ht, Nat.zero_add] at hshift
  exact ⟨_, hshift, Tokens.symbols_shift position tokens⟩

theorem Spells.of_at {ts : List Symbol} {tokens : Tokens} (h : tokensFrom position cs = .ok tokens)
    (hts : tokens.symbols = ts) : Spells cs ts := by
  have hshift : tokensFrom (0 + position) cs = _ := tokensFrom_shift position cs
  rw [Nat.zero_add, h] at hshift
  cases h₀ : tokensFrom 0 cs with
  | error e =>
    rw [h₀] at hshift
    cases hshift
  | ok tokens₀ =>
    rw [h₀] at hshift
    cases hshift
    exact ⟨tokens₀, h₀, by rw [← hts, Tokens.symbols_shift]⟩

theorem Spells.unique {ts us : List Symbol} (h : Spells cs ts) (h' : Spells cs us) : ts = us := by
  obtain ⟨tokens, ht, rfl⟩ := h
  obtain ⟨tokens', ht', rfl⟩ := h'
  rw [ht] at ht'
  cases ht'
  rfl

theorem spells_nil {ts : List Symbol} : Spells [] ts ↔ ts = [] := by
  have hnil : Spells [] [] := ⟨⟨[], 0⟩, tokensFrom_nil, rfl⟩
  exact ⟨fun h => h.unique hnil, fun h => h ▸ hnil⟩

theorem spells_blank {ts : List Symbol} (hc : Text.isBlank c = true) :
    Spells (c :: cs) ts ↔ Spells cs ts := by
  constructor
  · rintro ⟨tokens, ht, hts⟩
    rw [tokensFrom_of_blank hc] at ht
    exact .of_at ht hts
  · intro h
    obtain ⟨tokens, ht, hts⟩ := h.at (0 + c.utf8Size)
    exact ⟨tokens, by rw [tokensFrom_of_blank hc, ht], hts⟩

/-- A text that does not begin with a blank is read as a lexeme and the rest. -/
theorem spells_symbol {ts : List Symbol} (hc : Text.isBlank c = false) : Spells (c :: cs) ts ↔
    ∃ s us, scanSymbol 0 c cs = .ok s ∧ Spells s.rest us ∧ ts = s.symbol :: us := by
  constructor
  · rintro ⟨tokens, ht, rfl⟩
    rw [tokensFrom_of_symbol hc] at ht
    cases hs : scanSymbol 0 c cs with
    | error e => simp [hs] at ht
    | ok s =>
      simp only [hs] at ht
      generalize 0 + byteLength s.lexeme = stop at ht
      cases hmore : tokensFrom stop s.rest with
      | error e => simp [hmore, Except.map] at ht
      | ok more =>
        simp only [hmore, Except.map, Except.ok.injEq] at ht
        subst ht
        exact ⟨s, more.symbols, rfl, .of_at hmore rfl, by simp⟩
  · rintro ⟨s, us, hs, hrest, rfl⟩
    obtain ⟨more, hmore, rfl⟩ := hrest.at (0 + byteLength s.lexeme)
    refine ⟨more.after [⟨s.symbol, ⟨0, 0 + byteLength s.lexeme⟩⟩], ?_, by simp⟩
    rw [tokensFrom_of_symbol hc, hs]
    simp only [hmore, Except.map]

/-- The reading of a text, lexeme by lexeme. -/
@[elab_as_elim]
theorem Spells.induction
    {motive : (cs : List Char) → (ts : List Symbol) → Spells cs ts → Prop}
    (nil : motive [] [] (spells_nil.mpr rfl))
    (blank : ∀ (c : Char) (cs : List Char) (ts : List Symbol) (hc : Text.isBlank c = true)
      (h : Spells cs ts), motive cs ts h → motive (c :: cs) ts ((spells_blank hc).mpr h))
    (symbol : ∀ (c : Char) (cs : List Char) (s : Scanned) (us : List Symbol)
      (hc : Text.isBlank c = false) (hs : scanSymbol 0 c cs = .ok s) (h : Spells s.rest us),
      motive s.rest us h →
        motive (c :: cs) (s.symbol :: us) ((spells_symbol hc).mpr ⟨s, us, hs, h, rfl⟩))
    {ts : List Symbol} (h : Spells cs ts) : motive cs ts h := by
  induction hlen : cs.length using Nat.strongRecOn generalizing cs ts with
  | ind k ih =>
    subst hlen
    cases cs with
    | nil =>
      obtain rfl := spells_nil.mp h
      exact nil
    | cons c rest =>
      cases hc : Text.isBlank c with
      | true =>
        have hrest := (spells_blank hc).mp h
        exact blank c rest ts hc hrest (ih _ (by simp) hrest rfl)
      | false =>
        obtain ⟨s, us, hs, hrest, rfl⟩ := (spells_symbol hc).mp h
        have hshort := scanSymbol_shorter hs
        exact symbol c rest s us hc hs hrest (ih _ (by simp; omega) hrest rfl)

/-- A text and one that no lexeme of it reaches into are read one after the other. -/
theorem Spells.append {a b : List Char} {ts us : List Symbol} (ha : Spells a ts) (hb : Spells b us)
    (hapart : Apart a b) : Spells (a ++ b) (ts ++ us) := by
  induction ha using Spells.induction with
  | nil => exact hb
  | blank c cs ts hc _ ih => exact (spells_blank hc).mpr (ih (Apart.suffix [c] hapart))
  | symbol c cs s us hc hs _ ih =>
    refine (spells_symbol hc).mpr ⟨_, _, scanSymbol_append hs hapart, ih ?_, rfl⟩
    rw [← scanSymbol_split hs] at hapart
    exact hapart.suffix s.lexeme

theorem spells_lexeme {symbol : Symbol} (hc : Text.isBlank c = false)
    (h : scanSymbol 0 c cs = .ok ⟨symbol, c :: cs, []⟩) : Spells (c :: cs) [symbol] :=
  (spells_symbol hc).mpr ⟨_, [], h, spells_nil.mpr rfl, rfl⟩

theorem Spells.blank {ts : List Symbol} (h : Spells cs ts) : Spells (' ' :: cs) ts :=
  (spells_blank (by decide)).mpr h

theorem Spells.openParen {ts : List Symbol} (h : Spells cs ts) :
    Spells ('(' :: cs) (.openParen :: ts) :=
  (spells_symbol (by decide)).mpr ⟨_, ts, rfl, h, rfl⟩

theorem Spells.colon {ts : List Symbol} (h : Spells cs ts) : Spells (':' :: cs) (.colon :: ts) :=
  (spells_symbol (by decide)).mpr ⟨_, ts, rfl, h, rfl⟩

/-- The characters that tokens without quotes are made of. -/
def isPlain (c : Char) : Bool :=
  Text.isBlank c || inWord c || ['(', ')', '[', ']', ':', '=', '<', '>', '!'].contains c

theorem isPlain_of_scanSymbol {s : Scanned} (h : scanSymbol position c cs = .ok s)
    (hc : Text.isQuote c = false) : ∀ d ∈ s.lexeme, isPlain d = true := by
  rcases scanSymbol_cases h with ⟨hquote, -⟩ | ⟨-, hword, rfl⟩ | ⟨-, hsign, -⟩
  · rw [hc] at hquote
    cases hquote
  · intro d hd
    simp [isPlain, inWord_of_mem_run (by simp [inWord, hword]) cs d hd]
  · have hplain : ∀ sign ∈ signs, ∀ d ∈ sign.1, isPlain d = true := by
      simp [signs, isPlain]
    exact hplain _ hsign

theorem Spells.isPlain {ts : List Symbol} (h : Spells cs ts)
    (hq : ∀ c ∈ cs, Text.isQuote c = false) : ∀ c ∈ cs, isPlain c = true := by
  induction h using Spells.induction with
  | nil => simp
  | blank c cs ts hc _ ih =>
    have hrest := ih fun d hd => hq d (List.mem_cons_of_mem c hd)
    exact List.forall_mem_cons.mpr ⟨by simp [Lexer.isPlain, hc], hrest⟩
  | symbol c cs s us hc hs _ ih =>
    have hsplit := scanSymbol_split hs
    have hrest := ih fun d hd => hq d (hsplit ▸ List.mem_append_right _ hd)
    rw [← hsplit]
    exact List.forall_mem_append.mpr
      ⟨isPlain_of_scanSymbol hs (hq c List.mem_cons_self), hrest⟩

end Lexer

end NetQuery
