import NetQuery.Proofs.Number.Digits
import NetQuery.Proofs.Plan.Clock
import NetQuery.Proofs.Query.Printing
import NetQuery.Proofs.Token.Cutting

namespace NetQuery

namespace Lexer

open Grammar Number Text

variable {position : Nat} {c : Char} {cs rest : List Char} {s : Symbol} {ts : List Symbol}

/-- The characters are one word, which is read as the token. -/
structure IsWord (cs : List Char) (s : Symbol) : Prop where
  starts : cs.head?.any startsWord = true
  inWord : ∀ c ∈ cs, inWord c = true
  symbol : wordSymbol cs = s

theorem IsWord.spells (h : IsWord cs s) : Spells cs [s] := by
  cases cs with
  | nil => cases h.starts
  | cons c rest =>
    rw [← h.symbol]
    exact spells_word (by simpa using h.starts) (List.forall_mem_cons.mp h.inWord).2

/-- A word keeps apart from what ends without characters of words. -/
theorem IsWord.apart (h : IsWord cs s) {a : List Char}
    (ha : ∀ c ∈ a.getLast?, Lexer.inWord c = false) : Apart a cs :=
  .of_inWord ha fun c hc => h.inWord c (List.mem_of_mem_head? hc)

theorem IsWord.ne_quoted (h : IsWord cs s) (x : String) : s ≠ .quoted x := by
  rw [← h.symbol]
  obtain (h | h | h) | ⟨-, ⟨w, h⟩ | h⟩ := wordSymbol_cases cs
  all_goals simp [h]

/-- A lexeme that stands for a literal is a word, or a quoted text. -/
theorem isWord_of_scanSymbol {scanned : Scanned} {v : Literal}
    (h : scanSymbol position c rest = .ok scanned) (hv : Value scanned.symbol v)
    (hquoted : ∀ x, scanned.symbol ≠ .quoted x) :
    IsWord scanned.symbol.text.toList scanned.symbol := by
  rcases scanSymbol_cases h with ⟨-, q, -, rfl⟩ | ⟨-, hstarts, rfl⟩ | ⟨-, hsign, -⟩
  · exact absurd rfl (hquoted _)
  · have hword : ∀ d ∈ c :: rest.takeWhile inWord, inWord d = true :=
      inWord_of_mem_run (by simp [inWord, hstarts]) rest
    exact ⟨by simpa using hstarts, by simpa using hword, by simp⟩
  · -- No sign stands for a literal.
    generalize scanned.symbol = symbol at hv hsign
    cases hv <;> simp [signs] at hsign

/-- A token that stands for a literal is read from its own text, unless it was quoted. -/
theorem Spells.isWord {v : Literal} (h : Spells cs ts) (hs : s ∈ ts) (hv : Value s v)
    (hquoted : ∀ x, s ≠ .quoted x) : IsWord s.text.toList s := by
  induction h using Spells.induction with
  | nil => cases hs
  | blank _ _ _ _ _ ih => exact ih hs
  | symbol c cs scanned us _ hscan _ ih =>
    rcases List.mem_cons.mp hs with rfl | hs
    · exact isWord_of_scanSymbol hscan hv hquoted
    · exact ih hs

/-- A text that is read without quoted texts has no quotes. -/
theorem Spells.unquoted (h : Spells cs ts) (hquoted : ∀ s ∈ ts, ∀ x, s ≠ .quoted x) :
    ∀ c ∈ cs, isQuote c = false := by
  induction h using Spells.induction with
  | nil => simp
  | blank c cs ts hc _ ih =>
    exact List.forall_mem_cons.mpr
      ⟨not_quote_of_isPlain (by simp [Lexer.isPlain, hc]), ih hquoted⟩
  | symbol c cs scanned us _ hscan _ ih =>
    obtain ⟨hfirst, hrest⟩ := List.forall_mem_cons.mp hquoted
    cases hc : isQuote c with
    | true =>
      rw [scanSymbol_quote hc] at hscan
      split at hscan <;> cases hscan
      exact absurd rfl (hfirst _)
    | false =>
      rw [← scanSymbol_split hscan]
      exact List.forall_mem_append.mpr
        ⟨fun d hd => not_quote_of_isPlain (isPlain_of_scanSymbol hscan hc d hd), ih hrest⟩

theorem isWord_star : IsWord "*".toList (.wildcard "*") :=
  ⟨by decide, by simp [inWord, startsWord], by decide⟩

/-- No field of a text is named like the star that every record matches. -/
theorem Spells.field_ne_star {name : String} (h : Spells cs ts) (hmem : .field name ∈ ts) :
    name ≠ Query.matchAllName := by
  rintro rfl
  have hname : IsWord "*".toList (.field "*") := h.isWord hmem (.name "*") (by simp)
  exact absurd (hname.symbol.symm.trans isWord_star.symbol) (by simp)

theorem not_alpha_of_isDigit (h : c.isDigit = true) : c.isAlpha = false := by
  have hdigit : c.isDigit = (decide ('0'.val ≤ c.val) && decide (c.val ≤ '9'.val)) := rfl
  have halpha : c.isAlpha = (decide ('A'.val ≤ c.val ∧ c.val ≤ 'Z'.val) ||
      decide ('a'.val ≤ c.val) && decide (c.val ≤ 'z'.val)) := rfl
  rw [hdigit] at h
  rw [halpha]
  grind

/-- A digit or a minus sign may begin a word, and makes it neither a pattern nor a name. -/
theorem startsWord_of_digit (h : c.isDigit = true ∨ c = '-') :
    startsWord c = true ∧ (c == '*' || c == '?') = false ∧ (c.isAlpha || c == '_') = false := by
  rcases h with h | rfl
  · have hne (d : Char) (hd : d.isDigit = false) : (c == d) = false := by
      rw [beq_eq_false_iff_ne]
      rintro rfl
      rw [hd] at h
      cases h
    rw [hne '*' (by decide), hne '?' (by decide), hne '_' (by decide), not_alpha_of_isDigit h]
    simp [startsWord, Char.isAlphanum, h]
  · decide

theorem isWord_of_digits (hne : cs ≠ []) (h : ∀ c ∈ cs, c.isDigit = true ∨ c = '-') :
    IsWord cs (.value (String.ofList cs)) := by
  obtain ⟨c, rest, rfl⟩ := List.exists_cons_of_ne_nil hne
  obtain ⟨hstarts, -, hname⟩ := startsWord_of_digit (h c List.mem_cons_self)
  have hpattern : ((c :: rest).any fun c => c == '*' || c == '?') = false :=
    List.any_eq_false.mpr fun d hd => by simp [(startsWord_of_digit (h d hd)).2.1]
  refine ⟨by simpa using hstarts, fun d hd => ?_, ?_⟩
  · simp [Lexer.inWord, (startsWord_of_digit (h d hd)).1]
  · simp [wordSymbol, hpattern, hname]

theorem isWord_intText (n : Int) : IsWord (intText n).toList (.value (intText n)) := by
  have hne : (intText n).toList ≠ [] := by
    rw [toList_intText]
    split <;> simp [natDigits_ne_nil]
  have hchars : ∀ c ∈ (intText n).toList, c.isDigit = true ∨ c = '-' := by
    rw [toList_intText]
    intro c hc
    split at hc
    · exact (List.mem_cons.mp hc).symm.imp_left (isDigit_of_mem_natDigits c)
    · exact .inl (isDigit_of_mem_natDigits c hc)
  simpa using isWord_of_digits hne hchars

theorem spells_operator (op : Operator) (h : IsWord cs s) :
    Spells (op.symbol.toList ++ cs) [.operator op, s] := by
  have hop : Spells op.symbol.toList [.operator op] ∧
      ∀ c ∈ op.symbol.toList.getLast?, inWord c = false := by
    cases op with
    | order comparison =>
      cases comparison <;> exact ⟨spells_lexeme (by decide) rfl, by rintro c ⟨⟩; decide⟩
    | _ => exact ⟨spells_lexeme (by decide) rfl, by rintro c ⟨⟩; decide⟩
  exact hop.1.append h.spells (h.apart hop.2)

/-- The bounds of a range are read between their brackets. -/
theorem spells_range {lo hi : List Char} {least greatest : Symbol} (hlo : IsWord lo least)
    (hhi : IsWord hi greatest) : Spells ('[' :: (lo ++ ' ' :: (['T', 'O'] ++ ' ' :: (hi ++ [']']))))
      [.openBracket, least, .rangeTo "TO", greatest, .closeBracket] := by
  have hto : Spells ['T', 'O'] [.rangeTo "TO"] := spells_lexeme (by decide) rfl
  have hclose : Spells [']'] [.closeBracket] := spells_lexeme (by decide) rfl
  have hend := hhi.spells.append hclose (EndsWord.apart (by simp [EndsWord, inWord, startsWord]))
  have hrest := hlo.spells.append (hto.append hend.blank (apart_blank _)).blank (apart_blank _)
  exact (spells_symbol (by decide)).mpr ⟨_, _, rfl, hrest, rfl⟩

end Lexer

namespace Grammar

open Lexer Number

variable {s : Symbol} {v : Literal} {ts : List Symbol} {name : String} {q : Query}

/-- A literal that was written as a word, and is no decimal, is written as a word again, and as a
pattern only if it was one. -/
theorem Value.reprinted (h : Value s v) (hword : IsWord s.text.toList s)
    (hfloat : ∀ x, v ≠ .float x) :
    ∃ s', IsWord v.toText.toList s' ∧ Value s' v ∧ ∀ p, s' = .wildcard p → s = .wildcard p := by
  cases h with
  | word w =>
    cases hv : Literal.ofWord w with
    | int n =>
      have hvalue : Value (.value (intText n)) (.int n) :=
        Literal.ofWord_intText_of_ofWord hv ▸ .word (intText n)
      exact ⟨_, isWord_intText n, hvalue, by simp⟩
    | float x => exact absurd hv (hfloat x)
    | text w' =>
      obtain rfl := Literal.eq_of_ofWord_eq_text hv
      exact ⟨_, hword, hv ▸ .word w', fun _ => id⟩
  | quoted x => exact absurd rfl (hword.ne_quoted x)
  | name w => exact ⟨_, hword, .name w, fun _ => id⟩
  | pattern w => exact ⟨_, hword, .pattern w, fun _ => id⟩

/-- A bound is written as a word again, an open one as a star. -/
theorem Bound.reprinted {b : Option Literal} (h : Bound ts b)
    (hword : ∀ s ∈ ts, ∀ v, Value s v → IsWord s.text.toList s)
    (hfloat : ∀ v ∈ b, ∀ x, v ≠ .float x) :
    ∃ s, IsWord (Query.boundText b).toList s ∧ Bound [s] b := by
  cases h with
  | absent | star => exact ⟨_, isWord_star, .star⟩
  | value hv hstar =>
    obtain ⟨s', hs', hv', hsame⟩ := hv.reprinted (hword _ List.mem_cons_self _ hv) (hfloat _ rfl)
    exact ⟨s', hs', .value hv' fun h => hstar (hsame _ h)⟩

/-- What follows the colon of a field is written so that it is read again, without the equals
sign. -/
theorem Condition.reprinted (h : Condition name ts q) (hname : name ≠ Query.matchAllName)
    (hword : ∀ s ∈ ts, ∀ v, Value s v → IsWord s.text.toList s)
    (hfloat : ∀ v ∈ q.literals, ∀ x, v ≠ .float x)
    (hpattern : ∀ p, ts ≠ [.operator .eq, .wildcard p]) :
    ∃ tail us, q.toText.toList = name.toList ++ ':' :: tail ∧ Spells tail us ∧
      (∀ s ∈ us, ∀ x, s ≠ .quoted x) ∧ Condition name us q.withoutEquals := by
  -- A value is written as a word, be it after an operator or right after the colon.
  have hvalue {s : Symbol} {v : Literal} (hs : s ∈ ts) (hv : Value s v) (hmem : v ∈ q.literals) :
      ∃ s', IsWord v.toText.toList s' ∧ Value s' v ∧ ∀ p, s' = .wildcard p → s = .wildcard p :=
    hv.reprinted (hword s hs v hv) (hfloat v hmem)
  -- Right after the colon a pattern would not be read as a value.
  have hplain {s : Symbol} {v : Literal} (hs : s ∈ ts) (hv : Value s v) (hmem : v ∈ q.literals)
      (hno : ∀ p, s ≠ .wildcard p) :
      ∃ s', IsWord v.toText.toList s' ∧ Condition name [s'] (.field name v none) := by
    obtain ⟨s', hs', hv', hsame⟩ := hvalue hs hv hmem
    exact ⟨s', hs', .value hv' fun p hp => hno p (hsame p hp)⟩
  cases h with
  | @eq s v hv =>
    have hno : ∀ p, s ≠ .wildcard p := by
      rintro p rfl
      exact hpattern p rfl
    obtain ⟨s', hs', hcond⟩ := hplain (by simp) hv List.mem_cons_self hno
    exact ⟨_, _, by simp [Query.toText, hname], hs'.spells, by simp [hs'.ne_quoted], hcond⟩
  | ne hv =>
    obtain ⟨s', hs', hv', -⟩ := hvalue (by simp) hv List.mem_cons_self
    exact ⟨_, _, by simp [Query.toText, hname, Relation.symbol, Operator.symbol],
      spells_operator .ne hs', by simp [hs'.ne_quoted], .ne hv'⟩
  | order op hv =>
    obtain ⟨s', hs', hv', -⟩ := hvalue (by simp) hv List.mem_cons_self
    exact ⟨_, _, by simp [Query.toText, Operator.symbol], spells_operator (.order op) hs',
      by simp [hs'.ne_quoted], .order op hv'⟩
  | @range lo hi min max spelling hlo hhi =>
    obtain ⟨least, hleast, hmin⟩ := hlo.reprinted (fun s hs => hword s (by simp [hs]))
      fun v hv => hfloat v (Query.mem_literals_of_mem_min hv)
    obtain ⟨greatest, hgreatest, hmax⟩ := hhi.reprinted (fun s hs => hword s (by simp [hs]))
      fun v hv => hfloat v (Query.mem_literals_of_mem_max hv)
    exact ⟨_, _, by simp [Query.toText], spells_range hleast hgreatest,
      by simp [hleast.ne_quoted, hgreatest.ne_quoted], .range "TO" hmin hmax⟩
  | pattern p =>
    have hp := hword (.wildcard p) List.mem_cons_self _ (.pattern p)
    exact ⟨_, _, by simp [Query.toText, Symbol.text], hp.spells, by simp, .pattern p⟩
  | value hv hno =>
    obtain ⟨s', hs', hcond⟩ := hplain (by simp) hv List.mem_cons_self hno
    exact ⟨_, _, by simp [Query.toText, hname], hs'.spells, by simp [hs'.ne_quoted], hcond⟩

/-- A clause that is written as some tokens without quotes is read back from its text. -/
theorem Derives.readsBack {us : List Symbol} (h : Derives .primary us q.withoutEquals)
    (hq : q.isLeaf = true) (hs : Spells q.toText.toList us)
    (hquoted : ∀ s ∈ us, ∀ x, s ≠ .quoted x) : q.ReadsBack := by
  have hleaf : q.withoutEquals.isLeaf = true := by rw [q.isLeaf_withoutEquals, hq]
  refine ⟨hs.unquoted hquoted, Verdict.query_eq_some_iff.mpr ⟨us, hs,
    (Derives.primary h).conjunction_of_negation.expression_of_conjunction, ?_, ?_, by simp⟩⟩
  · rw [Query.leaves_of_isLeaf hleaf, List.length_singleton]
    decide
  · rw [Query.nesting_of_isLeaf hleaf]
    decide

def Nonterminal.leavesBefore : Nonterminal → List Query
  | orMore left | andMore left => left.leaves
  | _ => []

/-- The clause is spelled by a stretch of the tokens. -/
def StandsIn (leaf : Query) (ts : List Symbol) : Prop :=
  leaf.isLeaf = true ∧ ∃ us, Derives .primary us leaf ∧ us <:+: ts

theorem StandsIn.mono {leaf : Query} {us : List Symbol} (h : StandsIn leaf us) (hsub : us <:+: ts) :
    StandsIn leaf ts :=
  ⟨h.1, h.2.imp fun _ hus => ⟨hus.1, hus.2.trans hsub⟩⟩

/-- Every clause of a phrase stands in its tokens, or was read before them. -/
theorem Derives.exists_clause {X : Nonterminal} {leaf : Query} (h : Derives X ts q)
    (hleaf : leaf ∈ q.leaves) : leaf ∈ X.leavesBefore ∨ StandsIn leaf ts := by
  -- A further operand stands between what was read before it and what follows.
  have hnext (before : List Symbol) {left right : Query} {ts us vs : List Symbol}
      (hright : leaf ∈ right.leaves →
        leaf ∈ Nonterminal.conjunction.leavesBefore ∨ StandsIn leaf us)
      (hmore : leaf ∈ left.leaves ++ right.leaves ∨ StandsIn leaf vs)
      (hts : before ++ (us ++ vs) = ts) : leaf ∈ left.leaves ∨ StandsIn leaf ts := by
    subst hts
    have hus : us <:+: before ++ (us ++ vs) := ⟨before, vs, by simp⟩
    have hvs : vs <:+: before ++ (us ++ vs) := ⟨before ++ us, [], by simp⟩
    obtain hbefore | hstands := hmore
    · obtain hleft | hleaf := List.mem_append.mp hbefore
      · exact .inl hleft
      · obtain hnone | hstands := hright hleaf
        · cases hnone
        · exact .inr (hstands.mono hus)
    · exact .inr (hstands.mono hvs)
  induction h with
  | orDone | andDone => exact .inl hleaf
  | @expression ts us _ _ _ _ ihfirst ihmore | @conjunction ts us _ _ _ _ ihfirst ihmore =>
    obtain hfirst | hmore := ihmore hleaf
    · exact (ihfirst hfirst).imp_right fun h => h.mono (List.prefix_append ts us).isInfix
    · exact .inr (hmore.mono (List.suffix_append ts us).isInfix)
  | orNext _ _ _ ihfirst ihmore | andNext _ _ _ ihfirst ihmore =>
    exact hnext [_] ihfirst (ihmore hleaf) rfl
  | andBeside _ _ ihfirst ihmore => exact hnext [] ihfirst (ihmore hleaf) rfl
  | @not ts _ spelling _ ih =>
    exact (ih hleaf).imp_right fun h => h.mono (List.suffix_cons _ ts).isInfix
  | primary _ ih => exact ih hleaf
  | @group ts _ _ ih =>
    exact (ih hleaf).imp_right fun h => h.mono ⟨[.openParen], [.closeParen], by simp⟩
  | star =>
    obtain rfl := List.mem_singleton.mp hleaf
    exact .inr ⟨rfl, _, .star, List.infix_rfl⟩
  | field hcond =>
    rw [Query.leaves_of_isLeaf hcond.isLeaf, List.mem_singleton] at hleaf
    subst hleaf
    exact .inr ⟨hcond.isLeaf, _, .field hcond, List.infix_rfl⟩

end Grammar

namespace Query

open Grammar Lexer

variable {text : String} {tokens : Tokens} {q : Query}

/-- Without quoted texts, decimals and patterns after equals signs every clause is read back. -/
theorem plain_of_unquoted (h : (Verdict.ofText text none).query = some q)
    (htokens : tokenize text = .ok tokens) (hquoted : ∀ x, .quoted x ∉ tokens.symbols)
    (hfloat : ∀ leaf ∈ q.leaves, ∀ v ∈ leaf.literals, ∀ x, v ≠ .float x)
    (hpattern : ∀ p, ¬ [.operator .eq, .wildcard p] <:+: tokens.symbols) : q.Plain := by
  obtain ⟨ts, hs, hd, -⟩ := Verdict.query_eq_some_iff.mp h
  obtain rfl : ts = tokens.symbols := hs.unique ⟨tokens, htokens, rfl⟩
  have hword {s : Symbol} {v : Literal} (hmem : s ∈ tokens.symbols) (hv : Value s v) :
      IsWord s.text.toList s :=
    hs.isWord hmem hv fun x hx => hquoted x (hx ▸ hmem)
  intro leaf hleaf
  obtain hnone | ⟨hisLeaf, us, hclause, hus⟩ := hd.exists_clause hleaf
  · cases hnone
  cases hclause with
  | group => cases hisLeaf
  | star =>
    exact Derives.star.readsBack rfl isWord_star.spells (by simp)
  | @field ts name _ hcond =>
    have hmem : .field name ∈ tokens.symbols := hus.subset List.mem_cons_self
    have hname : IsWord name.toList (.field name) := hword hmem (.name name)
    have hts : ts <:+: tokens.symbols := (List.suffix_append [_, _] ts).isInfix.trans hus
    obtain ⟨tail, us', htext, htail, hunquoted, hcond'⟩ := hcond.reprinted (hs.field_ne_star hmem)
      (fun s hmem v hv => hword (hts.subset hmem) hv) (hfloat leaf hleaf)
      fun p hp => hpattern p (hp ▸ hts)
    refine (Derives.field hcond').readsBack hisLeaf ?_ (by simpa using hunquoted)
    rw [htext]
    exact hname.spells.append htail.colon (endsWord_colon tail).apart

/-- A query that was spelled without quoted texts, decimals and patterns after equals signs is read
back from its text, up to equals signs. -/
theorem toText_reads_back (h : (Verdict.ofText text none).query = some q)
    (htokens : tokenize text = .ok tokens) (hquoted : ∀ x, .quoted x ∉ tokens.symbols)
    (hfloat : ∀ leaf ∈ q.leaves, ∀ v ∈ leaf.literals, ∀ x, v ≠ .float x)
    (hpattern : ∀ p, ¬ [.operator .eq, .wildcard p] <:+: tokens.symbols) :
    (Verdict.ofText q.toText none).isValid = true ∧
      (Verdict.ofText q.toText none).query = some q.withoutEquals := by
  have hback := ofText_toText h (plain_of_unquoted h htokens hquoted hfloat hpattern)
  exact ⟨Verdict.isValid_iff.mpr ⟨_, hback⟩, hback⟩

/-- The number loses its zeros and its equals sign, and clauses side by side get a connective. -/
theorem toText_reads_back_of_clauses_side_by_side :
    let text := "port:=0080 (ip:[10.0.0.1 TO *] OR NOT name:!=a*)"
    let q := and (field "port" (.int 80) (some .eq))
      (group (or (range "ip" (some (.text "10.0.0.1")) none true)
        (not (field "name" (.text "a*") (some .ne)))))
    (Verdict.ofText text none).query = some q ∧
      q.toText = "port:80 AND (ip:[10.0.0.1 TO *] OR NOT name:!=a*)" ∧
      (Verdict.ofText q.toText none).isValid = true ∧
      (Verdict.ofText q.toText none).query = some q.withoutEquals := by
  intro text q
  have hq : (Verdict.ofText text none).query = some q := by decide +kernel
  have hread : (tokenize text).toOption.map Tokens.symbols = some [.field "port", .colon,
      .operator .eq, .value "0080", .openParen, .field "ip", .colon, .openBracket,
      .value "10.0.0.1", .rangeTo "TO", .wildcard "*", .closeBracket, .logical .or "OR",
      .logical .not "NOT", .field "name", .colon, .operator .ne, .wildcard "a*", .closeParen] := by
    decide +kernel
  cases htokens : tokenize text with
  | error e =>
    rw [htokens] at hread
    cases hread
  | ok tokens =>
    rw [htokens] at hread
    have hsymbols := Option.some.inj hread
    refine ⟨hq, by decide, toText_reads_back hq htokens ?_ ?_ ?_⟩
    · simp [hsymbols]
    · simp [q, leaves, literals]
    · simp [hsymbols, List.infix_cons_iff]

end Query

end NetQuery
