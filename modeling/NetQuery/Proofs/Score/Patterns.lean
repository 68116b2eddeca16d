import NetQuery.Library
import NetQuery.Proofs.Query.Acceptance
import NetQuery.Proofs.Regex.Wildcards
import NetQuery.Proofs.Score.Places
import NetQuery.Proofs.Score.Weights
import NetQuery.Proofs.Text.Segments
import NetQuery.Score.Gate

namespace NetQuery

namespace Text.QuoteState

variable {state : QuoteState} {c : Char} {cs rest : List Char}

/-- Whether a backslash stands before a quote of the kind that ends the quoted text around it. -/
def escapesQuote (state : QuoteState) : List Char → Bool
  | [] => false
  | c :: rest => state == .escaped c || (state.next c).escapesQuote rest

theorem escapesQuote_append (state : QuoteState) (cs rest : List Char) :
    state.escapesQuote (cs ++ rest) =
      (state.escapesQuote cs || (state.run cs).escapesQuote rest) := by
  induction cs generalizing state with
  | nil => rfl
  | cons c cs ih => simp only [List.cons_append, escapesQuote, ih, run_cons, Bool.or_assoc]

/-- The quote that a scan is to find next, where a backslash is a character like any other. -/
def nextQuote (quote : Option Char) (c : Char) : Option Char :=
  match quote with
  | some q => if c == q then none else some q
  | none => if isQuote c then some c else none

/-- Backslashes only matter before the quote that is to be found next. -/
theorem quote?_next_eq (hescape : state ≠ .escaped c)
    (hquote : ∀ q, state.quote? = some q → isQuote q = true) :
    (state.next c).quote? = nextQuote state.quote? c := by
  cases state with
  | outside =>
    rw [next_outside]
    unfold nextQuote quote?
    cases isQuote c <;> rfl
  | inside q =>
    have hslash : q ≠ '\\' := by
      rintro rfl
      cases hquote _ rfl
    by_cases hc : c = '\\'
    · subst hc
      simp [next, quote?, nextQuote, Ne.symm hslash]
    · by_cases hq : c = q <;> simp [next, quote?, nextQuote, hc, hq, hslash]
  | escaped q =>
    have hc : c ≠ q := by
      rintro rfl
      exact hescape rfl
    simp [next, quote?, nextQuote, hc]

end Text.QuoteState

namespace Score

open Text QuoteState Lexer Regex

variable {word name raw bare cs : List Char} {state : QuoteState} {ts : List Symbol} {p : String}
  {connectives : List Connective} {r : Reading} {text : String} {q : Query}

theorem splitFieldFrom_cons (quote : Option Char) (c : Char) (rest : List Char) :
    splitFieldFrom quote (c :: rest) =
      if quote.isNone && c == ':' then some ([], rest)
      else (splitFieldFrom (nextQuote quote c) rest).map fun (before, after) =>
        (c :: before, after) := rfl

theorem splitFieldFrom_eq {quote : Option Char} (h : splitFieldFrom quote word = some (name, raw)) :
    word = name ++ ':' :: raw := by
  induction word generalizing quote name with
  | nil => cases h
  | cons c rest ih =>
    rw [splitFieldFrom_cons] at h
    split at h
    · next hcolon =>
      cases h
      simp only [Bool.and_eq_true, beq_iff_eq] at hcolon
      rw [hcolon.2, List.nil_append]
    · obtain ⟨⟨before, after⟩, hrest, hpair⟩ := Option.map_eq_some_iff.mp h
      cases hpair
      rw [ih hrest, List.cons_append]

/-- Where no quoted text escapes its own quote, the colon behind a field is outside quoted texts. -/
theorem isOutside_of_splitFieldFrom (hescape : state.escapesQuote word = false)
    (hquote : ∀ q, state.quote? = some q → isQuote q = true)
    (h : splitFieldFrom state.quote? word = some (name, raw)) :
    (state.run name).isOutside = true := by
  induction word generalizing state name with
  | nil => cases h
  | cons c rest ih =>
    simp only [escapesQuote, Bool.or_eq_false_iff, beq_eq_false_iff_ne] at hescape
    rw [splitFieldFrom_cons] at h
    split at h
    · next hcolon =>
      cases h
      rw [run_nil, ← isNone_quote?]
      exact (Bool.and_eq_true_iff.mp hcolon).1
    · -- the two scans stay in step, as no backslash stands before the quote that both look for
      rw [← quote?_next_eq hescape.1 hquote] at h
      obtain ⟨⟨before, after⟩, hrest, hpair⟩ := Option.map_eq_some_iff.mp h
      cases hpair
      rw [run_cons]
      exact ih hescape.2 (fun q hq => (quote?_next hq).elim (hquote q) id) hrest

/-- What is read as tokens has no slash behind a colon, outside quoted texts. -/
theorem not_isOutside_of_spells (h : Spells (name ++ ':' :: '/' :: cs) ts) :
    (outside.run name).isOutside = false := by
  rw [Bool.eq_false_iff]
  intro hout
  obtain ⟨us, vs, -, -, hvs⟩ := h.split (eq_outside hout) (endsWord_colon _).apart
  obtain ⟨s, more, hs, hmore, -⟩ := (spells_symbol (by decide)).mp hvs
  cases hs
  obtain ⟨s, more, hs, -⟩ := (spells_symbol (by decide)).mp hmore
  cases hs

theorem between?_eq_some {first last : Char} {inner : List Char} :
    between? first last cs = some inner ↔ cs = first :: (inner ++ [last]) := by
  cases cs with
  | nil => simp [between?]
  | cons c rest =>
    simp only [between?, Option.ite_none_right_eq_some, Bool.and_eq_true, beq_iff_eq,
      Option.some.injEq, List.cons.injEq]
    constructor
    · rintro ⟨⟨rfl, hlast⟩, rfl⟩
      exact ⟨rfl, (List.dropLast_append_getLast? _ hlast).symm⟩
    · rintro ⟨rfl, rfl⟩
      simp

theorem ne_regex_of_operator? {kind : ConditionKind} {rest : List Char}
    (h : operator? raw = some (kind, rest)) : kind ≠ .regex := by
  obtain ⟨⟨symbol, kind'⟩, hmem, hsome⟩ := List.exists_of_findSome?_eq_some h
  have hkinds : ∀ o ∈ operators, o.2 ≠ .regex := by decide
  simp only [Option.ite_none_right_eq_some, Option.some.injEq, Prod.mk.injEq] at hsome
  rw [← hsome.2.1]
  exact hkinds _ hmem

theorem wildcardValue_eq_regex {value : Json} (h : wildcardValue raw = (.regex, value)) :
    value = .str (String.ofList (globPattern raw)) := by
  unfold wildcardValue at h
  simp only at h
  split at h
  · cases h
  · split at h
    · cases h
    · split at h
      · cases h
      · cases h
        rfl

/-- A value asks for a pattern between slashes, or for that of a text with wildcards. -/
theorem classifyValue_eq_regex {value : Json} (h : classifyValue raw = (.regex, value)) :
    (∃ inner, raw = '/' :: (inner ++ ['/']) ∧ value = .str (String.ofList inner)) ∨
      value = .str (String.ofList (globPattern raw)) := by
  unfold classifyValue at h
  split at h
  · cases h
  · split at h
    · next kind rest hoperator =>
      cases h
      exact absurd rfl (ne_regex_of_operator? hoperator)
    · split at h
      · next inner hinner =>
        cases h
        exact .inl ⟨inner, between?_eq_some.mp hinner, rfl⟩
      · split at h
        · cases h
        · split at h
          · cases h
          · split at h
            · exact .inr (wildcardValue_eq_regex h)
            · cases h

theorem classifyValue_slashes (inner : List Char) :
    classifyValue ('/' :: (inner ++ ['/'])) = (.regex, .str (String.ofList inner)) := by
  have hrange : rangeValue? ('/' :: (inner ++ ['/'])) = none := rfl
  have hoperator : operator? ('/' :: (inner ++ ['/'])) = none := rfl
  have hbetween : between? '/' '/' ('/' :: (inner ++ ['/'])) = some inner :=
    between?_eq_some.mpr rfl
  simp only [classifyValue, hrange, hoperator, hbetween]

/-- A condition asks for a pattern only behind a field. -/
theorem pattern?_classify (h : (classify bare connectives).pattern? = some p) :
    ∃ name raw, splitFieldFrom none bare = some (name, raw) ∧
      (raw = '/' :: (p.toList ++ ['/']) ∨ p = String.ofList (globPattern raw)) := by
  unfold classify at h
  split at h
  · next c rest raw hsplit =>
    refine ⟨c :: rest, raw, hsplit, ?_⟩
    rcases hvalue : classifyValue raw with ⟨kind, value⟩
    simp only [hvalue, Component.pattern?] at h
    split at h
    · cases h
      obtain ⟨inner, rfl, hinner⟩ | hglob := classifyValue_eq_regex hvalue
      · cases hinner
        simp
      · cases hglob
        exact .inr rfl
    · cases h
  · cases h

theorem pattern?_classify_of_slashes (hne : name ≠ [])
    (h : splitFieldFrom none bare = some (name, '/' :: (p.toList ++ ['/']))) :
    (classify bare connectives).pattern? = some p := by
  obtain ⟨c, rest, rfl⟩ := List.exists_cons_of_ne_nil hne
  simp [classify, h, classifyValue_slashes, Component.pattern?]

def Role.pattern? : Role → Option String
  | condition bare => (classify bare []).pattern?
  | _ => none

theorem pattern?_congr (bare : List Char) (connectives : List Connective) :
    (classify bare connectives).pattern? = (classify bare []).pattern? := by
  unfold classify
  split <;> rfl

/-- The patterns of a text are those that its words ask for. -/
theorem mem_patterns_foldl (words : List (List Char)) (r : Reading) :
    p ∈ (words.foldl Reading.add r).components.filterMap Component.pattern? ↔
      p ∈ r.components.filterMap Component.pattern? ∨
        ∃ word ∈ words, (role word).pattern? = some p := by
  induction words generalizing r with
  | nil => simp
  | cons word words ih =>
    obtain ⟨grouped, hadd⟩ := r.add_eq word
    have hword : p ∈ (r.add word).components.filterMap Component.pattern? ↔
        p ∈ r.components.filterMap Component.pattern? ∨ (role word).pattern? = some p := by
      rw [hadd]
      cases role word with
      | connective w => simp [Role.pattern?]
      | condition bare =>
        simp only [List.mem_filterMap, List.mem_cons, Role.pattern?, exists_eq_or_imp,
          pattern?_congr bare r.pending.reverse]
        exact or_comm
      | nothing => simp [Role.pattern?]
    rw [List.foldl_cons, ih, hword, or_assoc, List.exists_mem_cons_iff]

theorem run_openParens (h : ∀ c ∈ cs, c = '(') : outside.run cs = outside :=
  run_of_forall fun c hc => by
    rw [h c hc]
    decide

/-- A word of what is read as tokens is read as some of them. -/
theorem exists_spells_of_mem (h : Spells cs ts) (hword : word ∈ splitWords cs) :
    ∃ part, Spells word part := by
  obtain ⟨parts, hparts, -⟩ := spells_splitWords h
  obtain ⟨i, hi, rfl⟩ := List.getElem_of_mem hword
  exact ⟨_, hparts.get hi (hparts.length_eq ▸ hi)⟩

/-- A word hides a pattern where it has a text between slashes behind a colon that is taken for the
one behind a field, but stands within a quoted text. -/
def HidesPattern (word : List Char) (pattern : String) : Prop :=
  ∃ name, splitFieldFrom none (dropParentheses word) =
      some (name, '/' :: (pattern.toList ++ ['/'])) ∧
    (outside.run name).isOutside = false

/-- The pattern that a word hides is the one that it asks for. -/
theorem HidesPattern.pattern? (h : HidesPattern word p) : (role word).pattern? = some p := by
  obtain ⟨name, hsplit, hname⟩ := h
  have hne : name ≠ [] := by
    rintro rfl
    cases hname
  obtain ⟨c, hc, hquote⟩ : ∃ c ∈ name, isQuote c = true := by
    refine Classical.byContradiction fun hnone => ?_
    rw [run_of_forall fun c hc => Bool.eq_false_iff.mpr fun hq => hnone ⟨c, hc, hq⟩] at hname
    cases hname
  have hmem : c ∈ word := by
    obtain ⟨opening, closing, hword, -⟩ := exists_parentheses word
    rw [hword, splitFieldFrom_eq hsplit]
    simp [hc]
  rw [role_of_opening hmem (.inl hquote)]
  exact pattern?_classify_of_slashes hne hsplit

/-- A word that is read as tokens asks for no pattern but one that it hides and that of a text with
wildcards. -/
theorem hidesPattern_or (h : Spells word ts) (hp : (role word).pattern? = some p) :
    HidesPattern word p ∨ ∃ raw, p = String.ofList (globPattern raw) := by
  cases hrole : role word with
  | connective w =>
    rw [hrole] at hp
    cases hp
  | nothing =>
    rw [hrole] at hp
    cases hp
  | condition bare =>
    rw [hrole] at hp
    obtain rfl := eq_dropParentheses hrole
    obtain ⟨name, raw, hsplit, rfl | hglob⟩ := pattern?_classify hp
    · refine .inl ⟨name, hsplit, ?_⟩
      obtain ⟨opening, closing, hword, hopening, -⟩ := exists_parentheses word
      rw [hword, splitFieldFrom_eq hsplit, List.append_assoc, List.cons_append, List.cons_append,
        ← List.append_assoc] at h
      have hname := not_isOutside_of_spells h
      rwa [run_append, run_openParens hopening] at hname
    · exact .inr ⟨raw, hglob⟩

/-- A word of a text in which no quoted text escapes its own quote hides no pattern. -/
theorem not_hidesPattern (hescape : outside.escapesQuote cs = false)
    (hword : word ∈ splitWords cs) :
    ¬HidesPattern word p := by
  rintro ⟨name, hsplit, hname⟩
  obtain ⟨pre, post, rfl, hpre⟩ := exists_append_of_mem_splitWords hword
  obtain ⟨opening, closing, hbare, hopening, -⟩ := exists_parentheses word
  rw [hbare] at hescape
  simp only [escapesQuote_append, hpre, run_openParens hopening, Bool.or_eq_false_iff] at hescape
  rw [isOutside_of_splitFieldFrom hescape.2.1.2.1 (by simp [quote?]) hsplit] at hname
  cases hname

section

variable [Regex.Library]

/-- The gate finds fault with the patterns that are not accepted. -/
theorem badPattern_mem_rejections {w : Weighing} {limit : Binary64} :
    .badPattern p ∈ rejections w limit ↔
      p ∈ w.components.filterMap Component.pattern? ∧ isPattern p = false := by
  unfold rejections
  split <;> simp

theorem rejections_of_no_badPattern {w : Weighing} {limit : Binary64}
    (h : ∀ p, .badPattern p ∉ rejections w limit) :
    rejections w limit =
      if limit.lt w.complexity then [.tooComplex w.complexity limit] else [] := by
  have hnone : (w.components.filterMap Component.pattern?).filter (!isPattern ·) = [] := by
    refine List.filter_eq_nil_iff.mpr fun p hp hbad => h p ?_
    exact badPattern_mem_rejections.mpr ⟨hp, by simpa using hbad⟩
  rw [rejections, hnone, List.map_nil, List.append_nil]

/-- Where patterns that are well formed are accepted, the gate finds fault with a pattern of a text
that is read as a query just if a word of the text hides it and it is not well formed. So a text in
which no quoted text escapes its own quote is refused for nothing but its complexity. -/
theorem rejections_of_query (h : (Verdict.ofText text none).query = some q)
    (hbuild : ∀ c ∈ (Weighing.ofText text).components, ∀ p, c.pattern? = some p →
      isWellFormed p = true → isPattern p = true) (limit : Binary64) :
    (∀ p, .badPattern p ∈ rejections (Weighing.ofText text) limit ↔
      isWellFormed p = false ∧ ∃ word ∈ splitWords text.toList, HidesPattern word p) ∧
    (outside.escapesQuote text.toList = false →
      (admission text limit).errors =
        if limit.lt (Weighing.ofText text).complexity then
          [(Rejection.tooComplex (Weighing.ofText text).complexity limit).message]
        else []) := by
  obtain ⟨ts, hs, -⟩ := Verdict.query_eq_some_iff.mp h
  have hpatterns (p : String) : p ∈ (Weighing.ofText text).components.filterMap Component.pattern? ↔
      ∃ word ∈ splitWords text.toList, (role word).pattern? = some p := by
    simpa [Weighing.ofText, read] using
      mem_patterns_foldl (p := p) (splitWords text.toList) ⟨[], [], false⟩
  have hbad (p : String) : .badPattern p ∈ rejections (Weighing.ofText text) limit ↔
      isWellFormed p = false ∧ ∃ word ∈ splitWords text.toList, HidesPattern word p := by
    rw [badPattern_mem_rejections]
    constructor
    · rintro ⟨hmem, hp⟩
      obtain ⟨c, hc, hcp⟩ := List.mem_filterMap.mp hmem
      have hmalformed : isWellFormed p = false := Bool.eq_false_iff.mpr fun hwell => by
        rw [hbuild c hc p hcp hwell] at hp
        cases hp
      obtain ⟨word, hword, hrole⟩ := (hpatterns p).mp hmem
      obtain ⟨part, hpart⟩ := exists_spells_of_mem hs hword
      obtain hhides | ⟨raw, rfl⟩ := hidesPattern_or hpart hrole
      · exact ⟨hmalformed, word, hword, hhides⟩
      · rw [isWellFormed_globPattern] at hmalformed
        cases hmalformed
    · rintro ⟨hmalformed, word, hword, hhides⟩
      refine ⟨(hpatterns p).mpr ⟨word, hword, hhides.pattern?⟩, Bool.eq_false_iff.mpr fun hp => ?_⟩
      rw [isWellFormed_of_isPattern hp] at hmalformed
      cases hmalformed
  refine ⟨hbad, fun hescape => ?_⟩
  have hnone : ∀ p, .badPattern p ∉ rejections (Weighing.ofText text) limit := fun p hp => by
    obtain ⟨-, word, hword, hhides⟩ := (hbad p).mp hp
    exact not_hidesPattern hescape hword hhides
  rw [admission, rejections_of_no_badPattern hnone, apply_ite (List.map Rejection.message)]
  rfl

end

/-- What looks like a pattern within quotes is none, and the one of the wildcards is accepted. -/
theorem rejections_of_query_of_wildcards :
    let text := "name:lap*t.p AND site:'a:/(/'"
    (Weighing.ofText text).components.filterMap Component.pattern? = ["^lap.*t\\.p$"] ∧
      (admission text (.ofNat 10)).errors = [] := by
  intro text
  have hquery : (Verdict.ofText text none).query = some
      (.and (.wildcard "name" "lap*t.p") (.field "site" (.text "a:/(/") none)) := by
    decide +kernel
  have hpatterns : (Weighing.ofText text).components.filterMap Component.pattern? =
      ["^lap.*t\\.p$"] := by
    decide
  have hbuild : ∀ c ∈ (Weighing.ofText text).components, ∀ p, c.pattern? = some p →
      isWellFormed p = true → isPattern p = true := by
    intro c hc p hp _
    have hmem := List.mem_filterMap.mpr ⟨c, hc, hp⟩
    rw [hpatterns, List.mem_singleton] at hmem
    subst hmem
    decide
  have hlight : (Binary64.ofNat 10).lt (Weighing.ofText text).complexity = false := by
    decide +kernel
  have herrors := (rejections_of_query hquery hbuild (.ofNat 10)).2 (by decide)
  rw [hlight] at herrors
  exact ⟨hpatterns, herrors⟩

/-- The quoted text holds a quote, which a backslash stands before. What follows it up to the quote
of the next field is taken for a value, and for a pattern that lacks a closing parenthesis. -/
theorem rejections_of_escaped_quote :
    let text := "a: \"x\\\":/(\"b:1/"
    (Verdict.ofText text none).isValid = true ∧ isWellFormed "(\"b:1" = false ∧
      rejections (Weighing.ofText text) (.ofNat 10) = [.badPattern "(\"b:1"] := by
  decide +kernel

end Score

end NetQuery
