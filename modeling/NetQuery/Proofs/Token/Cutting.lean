import NetQuery.Proofs.Token.Locality

namespace NetQuery

namespace Lexer

open Text QuoteState

variable {position : Nat} {c quote : Char} {cs rest a b : List Char} {s : Scanned}

/-- A quoted text without its closing quote stays open. -/
theorem run_of_scanQuoted?_eq_none (h : scanQuoted? quote cs = none) :
    ((inside quote).run cs).isOutside = false := by
  fun_induction scanQuoted? quote cs with
  | case1 => rfl
  | case2 c rest ih => simpa [next] using ih (by simpa using h)
  | case3 => cases h
  | case4 c rest hesc hc hslash =>
    obtain rfl : c = '\\' := by simpa using hslash
    cases rest with
    | nil => simp [next, isOutside]
    | cons d rest => exact (hesc d rest rfl rfl).elim
  | case5 c rest hesc hc hslash ih =>
    simpa [next, hc, hslash] using ih (by simpa using h)

/-- A quoted text ends where its closing quote brings the scan back outside. -/
theorem run_of_scanQuoted?_eq_some {q : Quoted} (hquote : quote ≠ '\\')
    (h : scanQuoted? quote cs = some q) : (inside quote).run q.lexeme = outside := by
  fun_induction scanQuoted? quote cs generalizing q with
  | case1 => cases h
  | case2 c rest ih =>
    obtain ⟨r, hr, rfl⟩ := Option.map_eq_some_iff.mp h
    simpa [next] using ih hr
  | case3 c rest hesc hc =>
    cases h
    obtain rfl : c = quote := by simpa using hc
    simp [next, hquote]
  | case4 => cases h
  | case5 c rest hesc hc hslash ih =>
    obtain ⟨r, hr, rfl⟩ := Option.map_eq_some_iff.mp h
    simpa [next, hc, hslash] using ih hr

theorem isQuote_ne_slash (h : isQuote c = true) : c ≠ '\\' := by
  rintro rfl
  cases h

theorem run_of_forall (h : ∀ c ∈ cs, isQuote c = false) : outside.run cs = outside := by
  induction cs with
  | nil => rfl
  | cons c cs ih =>
    obtain ⟨hc, hcs⟩ := List.forall_mem_cons.mp h
    rw [run_cons, next, hc]
    exact ih hcs

theorem not_quote_of_isPlain (h : isPlain c = true) : isQuote c = false := by
  rw [Bool.eq_false_iff]
  intro hquote
  simp only [isQuote, Bool.or_eq_true, beq_iff_eq] at hquote
  obtain rfl | rfl := hquote <;> revert h <;> decide

/-- After a lexeme the scan is outside quoted texts. -/
theorem run_lexeme (h : scanSymbol position c rest = .ok s) : outside.run s.lexeme = outside := by
  cases hc : isQuote c with
  | true =>
    rw [scanSymbol_quote hc] at h
    split at h
    · next q hq =>
      cases h
      simpa [next, hc] using run_of_scanQuoted?_eq_some (isQuote_ne_slash hc) hq
    · cases h
  | false => exact run_of_forall fun d hd => not_quote_of_isPlain (isPlain_of_scanSymbol h hc d hd)

/-- Where no lexeme is read, none is read with more behind the text. -/
theorem scanSymbol_append_error {e : LexError} (h : scanSymbol position c rest = .error e)
    (hrun : outside.run (c :: rest) = outside) (hapart : Apart (c :: rest) b) :
    ∀ s, scanSymbol position c (rest ++ b) ≠ .ok s := by
  cases hc : isQuote c with
  | true =>
    rw [scanSymbol_quote hc] at h
    split at h
    · cases h
    · next hq =>
      have hopen := run_of_scanQuoted?_eq_none hq
      rw [run_cons, next, if_pos hc] at hrun
      rw [hrun] at hopen
      cases hopen
  | false =>
    unfold scanSymbol at h ⊢
    split at h
    case h_9 =>
      have horder := hapart.order (by simp)
      intro s hs
      split at hs
      · next rest' hrest' =>
        cases rest with
        | nil =>
          exact horder.elim (absurd rfl) fun hb => hb (by rw [← List.nil_append b, hrest']; rfl)
        | cons d rest =>
          obtain ⟨rfl, -⟩ := List.cons.inj hrest'
          cases h
      · cases hs
    case h_10 =>
      rw [if_neg (by simp [hc])] at h
      split at h
      · cases h
      · next hword =>
        intro s hs
        rw [if_neg (by simp [hc]), if_neg hword] at hs
        cases hs
    all_goals cases h

/-- A lexeme that is read with more behind a text is read without it, where the two are apart. -/
theorem scanSymbol_of_append (h : scanSymbol position c (rest ++ b) = .ok s)
    (hrun : outside.run (c :: rest) = outside) (hapart : Apart (c :: rest) b) :
    ∃ more, scanSymbol position c rest = .ok ⟨s.symbol, s.lexeme, more⟩ ∧ s.rest = more ++ b := by
  cases hs : scanSymbol position c rest with
  | error e => exact absurd h (scanSymbol_append_error hs hrun hapart s)
  | ok s' =>
    rw [scanSymbol_append hs hapart] at h
    cases h
    exact ⟨s'.rest, rfl, rfl⟩

/-- A text is read as its parts on either side of a cut that keeps them apart. -/
theorem Spells.split {ts : List Symbol} (h : Spells (a ++ b) ts) (hrun : outside.run a = outside)
    (hapart : Apart a b) : ∃ us vs, ts = us ++ vs ∧ Spells a us ∧ Spells b vs := by
  induction hlen : a.length using Nat.strongRecOn generalizing a ts with
  | ind k ih =>
    subst hlen
    cases a with
    | nil => exact ⟨[], ts, rfl, spells_nil.mpr rfl, h⟩
    | cons c rest =>
      cases hc : isBlank c with
      | true =>
        have hquote : isQuote c = false := not_quote_of_isPlain (by simp [Lexer.isPlain, hc])
        rw [run_cons, next, if_neg (by simp [hquote])] at hrun
        obtain ⟨us, vs, rfl, hus, hvs⟩ :=
          ih _ (by simp) ((spells_blank hc).mp h) hrun (Apart.suffix [c] hapart) rfl
        exact ⟨us, vs, rfl, (spells_blank hc).mpr hus, hvs⟩
      | false =>
        obtain ⟨s, more, hs, hrest, rfl⟩ := (spells_symbol hc).mp h
        obtain ⟨behind, hbehind, hsplit⟩ := scanSymbol_of_append hs hrun hapart
        have hlexeme := scanSymbol_split hbehind
        have hshort := scanSymbol_shorter hbehind
        simp only at hlexeme hshort
        rw [← hlexeme, run_append, run_lexeme hs] at hrun
        rw [← hlexeme] at hapart
        rw [hsplit] at hrest
        obtain ⟨us, vs, rfl, hus, hvs⟩ :=
          ih _ (by simp; omega) hrest hrun (hapart.suffix s.lexeme) rfl
        exact ⟨s.symbol :: us, vs, rfl, (spells_symbol hc).mpr ⟨_, us, hbehind, hus, rfl⟩, hvs⟩

theorem isPlain_of_startsWord (h : startsWord c = true) : isPlain c = true := by
  simp [isPlain, inWord, h]

theorem toNat_of_startsWord (h : startsWord c = true) :
    '*'.toNat ≤ c.toNat ∧ c.toNat ≤ 'z'.toNat := by
  simp only [startsWord, Bool.or_eq_true, beq_iff_eq] at h
  obtain ((((h | rfl) | rfl) | rfl) | rfl) | rfl := h
  · have hletter := isAlphanum_iff.mp h
    have hbounds : '*'.toNat = 0x2a ∧ 'z'.toNat = 0x7a := by decide
    omega
  all_goals decide

theorem toNat_of_inWord (h : inWord c = true) : c.toNat ≤ 'z'.toNat := by
  have hstarts : startsWord c = true ∨ c = '/' := by simpa [inWord] using h
  obtain hstarts | rfl := hstarts
  · exact (toNat_of_startsWord hstarts).2
  · decide

theorem startsWord_of_isBlank (h : isBlank c = true) : startsWord c = false := by
  rw [Bool.eq_false_iff]
  intro hword
  have hbounds := toNat_of_startsWord hword
  obtain ⟨r, hr, hrc⟩ := inRanges_iff.mp h
  have hapart : ∀ r ∈ blankRanges, r.2 < '*'.toNat ∨ 'z'.toNat < r.1 := by decide
  have := hapart r hr
  omega

theorem endsWord_of_isBlank (h : isBlank c = true) : EndsWord (c :: cs) := by
  rintro d ⟨⟩
  refine ⟨?_, ?_⟩
  · rw [inWord, startsWord_of_isBlank h, Bool.false_or, beq_eq_false_iff_ne]
    rintro rfl
    cases h
  · rintro rfl
    cases h

/-- What begins with a character of words is a word. -/
theorem scanSymbol_word (h : startsWord c = true) : scanSymbol position c rest =
    .ok ⟨wordSymbol (c :: rest.takeWhile inWord), c :: rest.takeWhile inWord,
      rest.dropWhile inWord⟩ := by
  have hquote := not_quote_of_isPlain (isPlain_of_startsWord h)
  unfold scanSymbol
  split
  case h_10 => simp [hquote, h]
  all_goals exact absurd h (by decide)

theorem not_blank_of_inWord (h : inWord c = true) : isBlank c = false := by
  rw [Bool.eq_false_iff]
  intro hblank
  simp only [inWord, startsWord_of_isBlank hblank, Bool.false_or, beq_iff_eq] at h
  subst h
  cases hblank

theorem eq_slash (h : inWord c = true) (hstarts : startsWord c = false) : c = '/' := by
  simpa [inWord, hstarts] using h

/-- A text without characters of words at its end is apart from a text that begins with one. -/
theorem Apart.of_inWord (ha : ∀ c ∈ a.getLast?, inWord c = false)
    (hb : ∀ d ∈ b.head?, inWord d = true) : Apart a b := by
  intro c hc d hd
  have hne : d ≠ '=' := by
    rintro rfl
    cases hb '=' hd
  simp [joins, ha c hc, hne]

theorem Apart.congr_head {b' : List Char} (h : Apart a b) (hhead : b.head? = b'.head?) :
    Apart a b' := by
  unfold Apart at h ⊢
  rwa [← hhead]

theorem endsWord_colon (cs : List Char) : EndsWord (':' :: cs) := by
  rintro c ⟨⟩
  decide

theorem spells_blanks {ts : List Symbol} (h : ∀ c ∈ a, isBlank c = true) :
    Spells (a ++ b) ts ↔ Spells b ts := by
  induction a with
  | nil => rfl
  | cons c a ih =>
    obtain ⟨hc, ha⟩ := List.forall_mem_cons.mp h
    rw [List.cons_append, spells_blank hc, ih ha]

/-- A run of characters of words is read as one word, which may not begin with a slash. -/
theorem spells_run {ts : List Symbol} (hne : a ≠ []) (ha : ∀ c ∈ a, inWord c = true)
    (hb : ∀ c ∈ b.head?, inWord c = false) : Spells (a ++ b) ts ↔
      a.head?.any startsWord = true ∧ ∃ us, ts = wordSymbol a :: us ∧ Spells b us := by
  cases a with
  | nil => exact absurd rfl hne
  | cons c rest =>
    obtain ⟨hc, hrest⟩ := List.forall_mem_cons.mp ha
    rw [List.cons_append, spells_symbol (not_blank_of_inWord hc)]
    cases hstarts : startsWord c with
    | false =>
      -- a slash begins no lexeme
      obtain rfl := eq_slash hc hstarts
      simp [scanSymbol, isQuote, hstarts]
    | true =>
      have htake : (rest ++ b).takeWhile inWord = rest := by
        rw [List.takeWhile_append_of_pos hrest]
        cases b with
        | nil => simp
        | cons d b => simp [hb d rfl]
      have hdrop : (rest ++ b).dropWhile inWord = b := by
        rw [List.dropWhile_append_of_pos hrest]
        cases b with
        | nil => rfl
        | cons d b => exact List.dropWhile_cons_of_neg (by simp [hb d rfl])
      rw [scanSymbol_word hstarts, htake, hdrop]
      simp [hstarts, and_comm]

/-- The word that a text begins with goes on as far as there are characters of words. -/
theorem spells_word_append {ts : List Symbol} (hne : a ≠ []) (ha : ∀ c ∈ a, inWord c = true)
    (cs : List Char) : Spells (a ++ cs) ts ↔ a.head?.any startsWord = true ∧
      ∃ us, ts = wordSymbol (a ++ cs.takeWhile inWord) :: us ∧
        Spells (cs.dropWhile inWord) us := by
  have hrun : ∀ c ∈ cs.takeWhile inWord, inWord c = true := fun c hc =>
    List.all_eq_true.mp List.all_takeWhile c hc
  have hcs : a ++ cs = (a ++ cs.takeWhile inWord) ++ cs.dropWhile inWord := by
    rw [List.append_assoc, List.takeWhile_append_dropWhile]
  have hhead : (a ++ cs.takeWhile inWord).head? = a.head? := by
    cases a with
    | nil => exact absurd rfl hne
    | cons => rfl
  rw [hcs, spells_run (by simp [hne]) (List.forall_mem_append.mpr ⟨ha, hrun⟩)
    (not_of_head?_dropWhile inWord cs), hhead]

/-- The word that a text begins with may begin with other characters, and no other token changes. -/
theorem Spells.exchange {ts : List Symbol} (h : Spells (a ++ cs) ts)
    (hne : a ≠ []) (ha : ∀ c ∈ a, inWord c = true)
    (hne' : b ≠ []) (hb : ∀ c ∈ b, startsWord c = true) :
    ∃ us, ts = wordSymbol (a ++ cs.takeWhile inWord) :: us ∧
      Spells (b ++ cs) (wordSymbol (b ++ cs.takeWhile inWord) :: us) := by
  obtain ⟨-, us, rfl, hus⟩ := (spells_word_append hne ha cs).mp h
  have hword : ∀ c ∈ b, inWord c = true := fun c hc => by simp [inWord, hb c hc]
  obtain ⟨c, rest, rfl⟩ := List.exists_cons_of_ne_nil hne'
  exact ⟨us, rfl, (spells_word_append hne' hword cs).mpr
    ⟨by simpa using hb c List.mem_cons_self, us, rfl, hus⟩⟩

theorem spells_word (hc : startsWord c = true) (hrest : ∀ d ∈ rest, inWord d = true) :
    Spells (c :: rest) [wordSymbol (c :: rest)] := by
  have hword : ∀ d ∈ c :: rest, inWord d = true :=
    List.forall_mem_cons.mpr ⟨by simp [inWord, hc], hrest⟩
  have hrun := (spells_run (b := []) (List.cons_ne_nil c rest) hword (by simp)).mpr
    ⟨by simpa using hc, [], rfl, spells_nil.mpr rfl⟩
  rwa [List.append_nil] at hrun

/-- A word is a pattern, a field or a value, unless it is a keyword, which is short and begins with
a letter. -/
theorem wordSymbol_cases (word : List Char) :
    (wordSymbol word = .wildcard (String.ofList word) ∨
      wordSymbol word = .field (String.ofList word) ∨
      wordSymbol word = .value (String.ofList word)) ∨
    (word.length ≤ 3 ∧ word.head?.any (fun c => c.isAlpha || c == '_') = true) ∧
      ((∃ w, wordSymbol word = .logical w (String.ofList word)) ∨
        wordSymbol word = .rangeTo (String.ofList word)) := by
  have hlength {name : String} (h : upperAscii (String.ofList word) = name) :
      word.length = name.toList.length := by
    simp [← h, upperAscii]
  unfold wordSymbol
  simp only
  split
  · exact .inl (.inl rfl)
  · split
    · next hhead =>
      unfold keywordOrField
      split
      · next h => exact .inr ⟨⟨by rw [hlength h]; decide, hhead⟩, .inl ⟨_, rfl⟩⟩
      · next h => exact .inr ⟨⟨by rw [hlength h]; decide, hhead⟩, .inl ⟨_, rfl⟩⟩
      · next h => exact .inr ⟨⟨by rw [hlength h]; decide, hhead⟩, .inl ⟨_, rfl⟩⟩
      · next h => exact .inr ⟨⟨by rw [hlength h]; decide, hhead⟩, .inr rfl⟩
      · exact .inl (.inr (.inl rfl))
    · exact .inl (.inr (.inr rfl))

@[simp] theorem text_wordSymbol (word : List Char) :
    (wordSymbol word).text = String.ofList word := by
  obtain (h | h | h) | ⟨-, ⟨w, h⟩ | h⟩ := wordSymbol_cases word
  all_goals simp [h, Symbol.text]

/-- The signs that no other lexeme has a character of, with what they say. -/
def marks : List (Char × Symbol) :=
  [('(', .openParen), (')', .closeParen), ('[', .openBracket), (']', .closeBracket), (':', .colon)]

theorem wordSymbol_ne_mark (word : List Char) : ∀ mark ∈ marks, wordSymbol word ≠ mark.2 := by
  obtain (h | h | h) | ⟨-, ⟨w, h⟩ | h⟩ := wordSymbol_cases word
  all_goals simp [h, marks]

/-- A token that a mark says is read from nothing else. -/
theorem lexeme_of_mark {d : Char} {symbol : Symbol} (h : scanSymbol position c rest = .ok s)
    (hmark : (d, symbol) ∈ marks) (hs : s.symbol = symbol) : s.lexeme = [d] := by
  have hsigns : ∀ mark ∈ marks, ∀ sign ∈ signs, sign.2 = mark.2 → sign.1 = [mark.1] := by decide
  rcases scanSymbol_cases h with ⟨-, q, -, rfl⟩ | ⟨-, -, rfl⟩ | ⟨-, hsign, -⟩
  · rw [← hs] at hmark
    simp [marks] at hmark
  · exact absurd hs (wordSymbol_ne_mark _ _ hmark)
  · exact hsigns _ hmark _ hsign hs

theorem eq_colon_of_scanSymbol (h : scanSymbol position c rest = .ok s) (hs : s.symbol = .colon) :
    c = ':' ∧ s.rest = rest := by
  have hlexeme : s.lexeme = [':'] := lexeme_of_mark h (by simp [marks]) hs
  have hsplit := scanSymbol_split h
  rw [hlexeme, List.singleton_append, List.cons.injEq] at hsplit
  exact ⟨hsplit.1.symm, hsplit.2⟩

end Lexer

end NetQuery
