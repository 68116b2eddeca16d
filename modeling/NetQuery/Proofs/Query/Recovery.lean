import NetQuery.Proofs.Query.Rounds

namespace NetQuery

open NetQuery.Parser NetQuery.Grammar

/-- A field with its colon, and behind it one word, unless the value is missing. -/
structure FlatClause where
  name : String
  span : Span
  colonSpan : Span
  value : Option Token
  isWord : ∀ t ∈ value, (∃ s, t.symbol = .field s) ∨ ∃ s, t.symbol = .value s

namespace FlatClause

def tokens (f : FlatClause) : List Token :=
  ⟨.field f.name, f.span⟩ :: ⟨.colon, f.colonSpan⟩ :: f.value.toList

def fault (f : FlatClause) : Diagnostic :=
  ⟨.missingValue f.name, some f.span⟩

end FlatClause

/-- AND or OR between two clauses. -/
structure Joint where
  connective : Connective
  spelling : String
  span : Span
  ne_not : connective ≠ .not

def Joint.token (j : Joint) : Token :=
  ⟨.logical j.connective j.spelling, j.span⟩

/-- Clauses, with AND or OR between any two of them. -/
structure FlatQuery where
  first : FlatClause
  more : List (Joint × FlatClause)

namespace FlatQuery

def joined (more : List (Joint × FlatClause)) : List Token :=
  more.flatMap fun p => p.1.token :: p.2.tokens

def tokens (f : FlatQuery) : List Token :=
  f.first.tokens ++ joined f.more

def clauses (f : FlatQuery) : List FlatClause :=
  f.first :: f.more.map Prod.snd

@[simp] theorem joined_nil : joined [] = [] := rfl

@[simp] theorem joined_cons (p : Joint × FlatClause) (more : List (Joint × FlatClause)) :
    joined (p :: more) = p.1.token :: (p.2.tokens ++ joined more) := rfl

end FlatQuery

open FlatQuery

namespace Parser

variable {c after : Cursor} {f : FlatClause} {j : Joint} {more : List (Joint × FlatClause)}
  {rest : List Token} {left : Query} {whole : Query → Query} {levels : Nat} {why : Diagnostic}

/-- No fault shows at a joint, and reading resumes there. -/
theorem stop_joined (more : List (Joint × FlatClause)) :
    resume (joined more) = joined more ∧ stopFault? (joined more) = none := by
  cases more with
  | nil => exact ⟨rfl, rfl⟩
  | cons p more =>
    obtain ⟨⟨connective, spelling, span, hne⟩, f⟩ := p
    cases connective with
    | and | or => exact ⟨rfl, rfl⟩
    | not => exact absurd rfl hne

/-- A word behind the colon is the value, whatever follows it. -/
theorem clause_of_value {t : Token} (hf : f.value = some t) (hc : c.rest = f.tokens ++ rest)
    (hmax : c.clauses < maxClauses) :
    ∃ q, clause levels c = .ok q ⟨rest, c.finish, c.clauses + 1⟩ := by
  obtain ⟨inner, hinner⟩ := exists_clauseWith levels
  obtain ⟨symbol, span⟩ := t
  rw [FlatClause.tokens, hf] at hc
  rw [hinner]
  rcases f.isWord _ hf with ⟨s, rfl⟩ | ⟨s, rfl⟩
  · exact ⟨.field f.name (.text s) none, by
      simp [clauseWith, hc, counted, Nat.not_lt.mpr hmax, fieldClause, fieldValue, literal?]⟩
  · exact ⟨.field f.name (.ofWord s) none, by
      simp [clauseWith, hc, counted, Nat.not_lt.mpr hmax, fieldClause, fieldValue, literal?]⟩

/-- A joint behind the colon is no value. -/
theorem clause_of_missing (hf : f.value = none) (hc : c.rest = f.tokens ++ joined more)
    (hmax : c.clauses < maxClauses) :
    clause levels c = .fail f.fault ⟨joined more, c.finish, c.clauses + 1⟩ := by
  obtain ⟨inner, hinner⟩ := exists_clauseWith levels
  rw [FlatClause.tokens, hf] at hc
  rw [hinner]
  cases more with
  | nil =>
    simp [clauseWith, hc, counted, Nat.not_lt.mpr hmax, fieldClause, fieldValue, FlatClause.fault]
  | cons p more =>
    simp [clauseWith, hc, counted, Nat.not_lt.mpr hmax, fieldClause, fieldValue, literal?,
      FlatClause.fault, Joint.token]

theorem conjunctionFrom_of_and_fail {operand : Cursor → Outcome Query} {spelling : String}
    {span : Span} (hrest : c.rest = ⟨.logical .and spelling, span⟩ :: rest) (hne : rest ≠ [])
    (hright : operand { c with rest } = .fail why after) :
    conjunctionFrom operand left c = .fail why after := by
  rw [conjunctionFrom]
  simp only [hrest, List.isEmpty_iff, hright]
  rw [if_neg hne]

theorem disjunctionFrom_of_or_fail {operand : Cursor → Outcome Query} {spelling : String}
    {span : Span} (hrest : c.rest = ⟨.logical .or spelling, span⟩ :: rest) (hne : rest ≠ [])
    (hright : conjunction operand { c with rest } = .fail why after) :
    disjunctionFrom operand left c = .fail why after := by
  rw [disjunctionFrom]
  simp only [hrest, List.isEmpty_iff, hright]
  rw [if_neg hne]

/-- Reads on behind an operand of a conjunction, up to the end of the disjunction that it belongs
to. `whole` is what the conjunction makes of the disjunction so far. -/
def readOn (levels : Nat) (whole : Query → Query) (left : Query) (c : Cursor) : Outcome Query :=
  match conjunctionFrom (clause levels) left c with
  | .fail why after => .fail why after
  | .ok right after => disjunctionFrom (clause levels) (whole right) after

theorem disjunction_eq (levels : Nat) (c : Cursor) : disjunction (clause levels) c =
    match clause levels c with
    | .fail why after => .fail why after
    | .ok left after => readOn levels id left after := by
  unfold disjunction conjunction readOn
  cases clause levels c <;> rfl

theorem readOn_of_end (hc : c.rest = []) : readOn levels whole left c = .ok (whole left) c := by
  have hends : ∀ X : Nonterminal, X.EndsBefore (c.rest.map Token.symbol) := by
    simp [hc, Nonterminal.EndsBefore]
  simp only [readOn, conjunctionFrom_of_ends (hends _), disjunctionFrom_of_ends (hends _)]

/-- A conjunction ends before OR. -/
theorem readOn_of_or {spelling : String} {span : Span}
    (hc : c.rest = ⟨.logical .or spelling, span⟩ :: rest) :
    readOn levels whole left c = disjunctionFrom (clause levels) (whole left) c := by
  have hends : (Nonterminal.andMore left).EndsBefore (c.rest.map Token.symbol) := by
    rw [hc]
    exact Nonterminal.endsBefore_cons.mpr rfl
  simp only [readOn, conjunctionFrom_of_ends hends]

theorem tokens_append_ne_nil (f : FlatClause) (rest : List Token) : f.tokens ++ rest ≠ [] :=
  List.cons_ne_nil _ _

/-- A further clause with a value becomes a part of what is read so far. -/
theorem readOn_of_value {t : Token} (hf : f.value = some t) (hc : c.rest = joined ((j, f) :: more))
    (hmax : c.clauses < maxClauses) : ∃ whole' right, readOn levels whole left c =
      readOn levels whole' right ⟨joined more, c.finish, c.clauses + 1⟩ := by
  obtain ⟨connective, spelling, span, hne⟩ := j
  have hclause : ∃ q, clause levels { c with rest := f.tokens ++ joined more } =
      .ok q ⟨joined more, c.finish, c.clauses + 1⟩ := clause_of_value hf rfl hmax
  obtain ⟨q, hq⟩ := hclause
  have hlt : (joined more).length < (f.tokens ++ joined more).length := by
    simp [FlatClause.tokens]
    omega
  cases connective with
  | and =>
    refine ⟨whole, .and left q, ?_⟩
    unfold readOn
    rw [conjunctionFrom_of_and hc hq hlt]
  | or =>
    refine ⟨.or (whole left), q, ?_⟩
    rw [readOn_of_or hc]
    have hconjunction : conjunction (clause levels) { c with rest := f.tokens ++ joined more } =
        conjunctionFrom (clause levels) q ⟨joined more, c.finish, c.clauses + 1⟩ := by
      simp only [conjunction, hq]
    unfold readOn
    cases hread : conjunctionFrom (clause levels) q ⟨joined more, c.finish, c.clauses + 1⟩ with
    | fail why after =>
      rw [hread] at hconjunction
      exact disjunctionFrom_of_or_fail hc (tokens_append_ne_nil f _) hconjunction
    | ok right after =>
      rw [hread] at hconjunction
      have hshort := (conjunction_reads clause_reads hconjunction).length_lt rfl
      exact disjunctionFrom_of_or hc hconjunction hshort
  | not => exact absurd rfl hne

/-- At a further clause without one the reading fails. -/
theorem readOn_of_missing (hf : f.value = none) (hc : c.rest = joined ((j, f) :: more))
    (hmax : c.clauses < maxClauses) : readOn levels whole left c =
      .fail f.fault ⟨joined more, c.finish, c.clauses + 1⟩ := by
  obtain ⟨connective, spelling, span, hne⟩ := j
  have hclause : clause levels { c with rest := f.tokens ++ joined more } =
      .fail f.fault ⟨joined more, c.finish, c.clauses + 1⟩ := clause_of_missing hf rfl hmax
  cases connective with
  | and =>
    unfold readOn
    rw [conjunctionFrom_of_and_fail hc (tokens_append_ne_nil f _) hclause]
  | or =>
    have hconjunction : conjunction (clause levels) { c with rest := f.tokens ++ joined more } =
        .fail f.fault ⟨joined more, c.finish, c.clauses + 1⟩ := by
      simp only [conjunction, hclause]
    rw [readOn_of_or hc]
    exact disjunctionFrom_of_or_fail hc (tokens_append_ne_nil f _) hconjunction
  | not => exact absurd rfl hne

/-- What comes of reading these clauses from the cursor: all of them have a value and are read, or
the reading fails at the first one without a value, with the others left. -/
def ReachesGap (c : Cursor) (clauses : List FlatClause) (outcome : Outcome Query) : Prop :=
  (∀ f ∈ clauses, f.value.isSome = true) ∧
      (∃ q count, outcome = .ok q ⟨[], c.finish, count⟩) ∨
    ∃ before f after, clauses = before ++ f :: after.map Prod.snd ∧
      (∀ g ∈ before, g.value.isSome = true) ∧ f.value = none ∧
      outcome = .fail f.fault ⟨joined after, c.finish, c.clauses + before.length + 1⟩

theorem ReachesGap.cons {clauses : List FlatClause} {outcome : Outcome Query}
    (hf : f.value.isSome = true)
    (h : ReachesGap ⟨joined more, c.finish, c.clauses + 1⟩ clauses outcome) :
    ReachesGap c (f :: clauses) outcome := by
  rcases h with ⟨hall, hread⟩ | ⟨before, g, after, rfl, hbefore, hg, hfail⟩
  · exact .inl ⟨List.forall_mem_cons.mpr ⟨hf, hall⟩, hread⟩
  · refine .inr ⟨f :: before, g, after, rfl, List.forall_mem_cons.mpr ⟨hf, hbefore⟩, hg, ?_⟩
    rw [hfail, List.length_cons]
    simp only [Nat.add_assoc, Nat.add_comm 1]

theorem readOn_reachesGap (hc : c.rest = joined more)
    (hmax : c.clauses + more.length ≤ maxClauses) :
    ReachesGap c (more.map Prod.snd) (readOn levels whole left c) := by
  induction more generalizing c whole left with
  | nil =>
    obtain ⟨rest, finish, clauses⟩ := c
    cases hc
    exact .inl ⟨by simp, _, _, readOn_of_end rfl⟩
  | cons p more ih =>
    obtain ⟨j, f⟩ := p
    rw [List.length_cons] at hmax
    cases hf : f.value with
    | none =>
      exact .inr ⟨[], f, more, rfl, by simp, hf, readOn_of_missing hf hc (by omega)⟩
    | some t =>
      obtain ⟨whole', right, hread⟩ : ∃ whole' right, readOn levels whole left c =
          readOn levels whole' right ⟨joined more, c.finish, c.clauses + 1⟩ :=
        readOn_of_value hf hc (by omega)
      have hmore : ReachesGap ⟨joined more, c.finish, c.clauses + 1⟩ (more.map Prod.snd)
          (readOn levels whole' right ⟨joined more, c.finish, c.clauses + 1⟩) := by
        apply ih rfl
        simp only
        omega
      rw [hread]
      exact hmore.cons (by simp [hf])

/-- One expression reads clauses up to the first one without a value. -/
theorem expression_reachesGap (hc : c.rest = f.tokens ++ joined more)
    (hmax : c.clauses + 1 + more.length ≤ maxClauses) :
    ReachesGap c (f :: more.map Prod.snd) (expression c) := by
  rw [expression, disjunction_eq]
  cases hf : f.value with
  | none =>
    rw [clause_of_missing hf hc (by omega)]
    exact .inr ⟨[], f, more, rfl, by simp, hf, rfl⟩
  | some t =>
    obtain ⟨left, hleft⟩ : ∃ left, clause (maxDepth - 1) c =
        .ok left ⟨joined more, c.finish, c.clauses + 1⟩ := clause_of_value hf hc (by omega)
    have hmore : ReachesGap ⟨joined more, c.finish, c.clauses + 1⟩ (more.map Prod.snd)
        (readOn (maxDepth - 1) id left ⟨joined more, c.finish, c.clauses + 1⟩) :=
      readOn_reachesGap rfl hmax
    rw [hleft]
    exact hmore.cons (by simp [hf])

theorem filter_isNone {clauses : List FlatClause} (h : ∀ f ∈ clauses, f.value.isSome = true) :
    clauses.filter (·.value.isNone) = [] := by
  rw [List.filter_eq_nil_iff]
  intro f hf
  rw [Option.isNone_iff_eq_none]
  exact Option.isSome_iff_ne_none.mp (h f hf)

/-- The rounds report the missing values, from left to right. -/
theorem reports_flat (hc : c.rest = f.tokens ++ joined more)
    (hmax : c.clauses + 1 + more.length ≤ maxClauses) :
    reports c =
      ((f :: more.map Prod.snd).filter (·.value.isNone)).map FlatClause.fault := by
  induction hlen : more.length using Nat.strongRecOn generalizing c f more with
  | ind k ih =>
    subst hlen
    have hne : c.rest ≠ [] := by
      rw [hc]
      exact tokens_append_ne_nil f _
    rw [reports, rounds_eq_cons hne, List.flatMap_cons]
    rcases expression_reachesGap hc hmax with
      ⟨hall, q, n, hread⟩ | ⟨before, g, after, hclauses, hbefore, hg, hfail⟩
    · obtain ⟨hfaults, hnext⟩ := round_of_ok hread
      rw [hfaults, hnext, Option.elim_some, rounds_eq_nil rfl, filter_isNone hall]
      rfl
    · obtain ⟨hresume, hstop⟩ := stop_joined after
      obtain ⟨hfaults, hnext⟩ := round_of_fail hfail (by simp [FlatClause.fault])
      have hlength := congrArg List.length hclauses
      simp only [List.length_cons, List.length_append, List.length_map] at hlength
      simp only [hresume, hstop] at hfaults hnext
      rw [hfaults, hnext, hclauses, List.filter_append, filter_isNone hbefore, List.nil_append,
        List.filter_cons_of_pos (by simp [hg]), List.map_cons]
      refine congrArg (g.fault :: ·) ?_
      rw [Option.elim_some]
      cases after with
      | nil =>
        rw [rounds_eq_nil rfl]
        rfl
      | cons p after =>
        rw [List.length_cons] at hlength
        refine ih after.length (by omega) rfl ?_ rfl
        simp only
        omega

end Parser

/-- Clauses of one word each, joined by AND or OR, are read as a query unless some of them have no
value; then the errors are that these values are missing, from left to right. -/
theorem Query.ofTokens_flat (f : FlatQuery) (finish : Nat)
    (hclauses : f.clauses.length ≤ maxClauses) :
    let missing := f.clauses.filter (·.value.isNone)
    missing = [] ∧ (∃ q, ofTokens ⟨f.tokens, finish⟩ = .ok q) ∨
      missing ≠ [] ∧ ∃ ds, ofTokens ⟨f.tokens, finish⟩ = .error ds ∧
        ds.map Diagnostic.message =
          missing.map (fun g => "Expected value after field '" ++ g.name ++ ":'") ∧
        ds.map Diagnostic.span = missing.map (fun g => some g.span) := by
  intro missing
  have hcount : 0 + 1 + f.more.length ≤ maxClauses := by
    simp only [FlatQuery.clauses, List.length_cons, List.length_map] at hclauses
    omega
  have hreports : reports (Tokens.start ⟨f.tokens, finish⟩) = missing.map FlatClause.fault :=
    reports_flat (c := Tokens.start ⟨f.tokens, finish⟩) rfl hcount
  by_cases hmissing : missing = []
  · left
    refine ⟨hmissing, ?_⟩
    have hgap := expression_reachesGap (c := Tokens.start ⟨f.tokens, finish⟩) rfl hcount
    rcases hgap with ⟨-, q, n, hread⟩ | ⟨before, g, after, hall, -, hg, -⟩
    · exact ⟨q, ofTokens_eq_ok.mpr ⟨_, hread, rfl⟩⟩
    · have hmem : g ∈ missing := by
        refine List.mem_filter.mpr ⟨?_, by simp [hg]⟩
        rw [FlatQuery.clauses, hall]
        simp
      rw [hmissing] at hmem
      cases hmem
  · right
    have hne : reports (Tokens.start ⟨f.tokens, finish⟩) ≠ [] := by
      rw [hreports]
      simpa using hmissing
    refine ⟨hmissing, _, ofTokens_of_reports hne, ?_, ?_⟩
    · rw [hreports, List.map_map]
      rfl
    · rw [hreports, List.map_map]
      rfl

/-- Missing values at both ends and in the middle, in front of AND and of OR. -/
theorem Query.ofTokens_flat_of_missing_values :
    let text := "severity: AND a:1 or type: OR b:x AND bytes:"
    ∃ tokens, tokenize text = .ok tokens ∧ ∃ ds, ofTokens tokens = .error ds ∧
      ds.map Diagnostic.message = ["Expected value after field 'severity:'",
        "Expected value after field 'type:'", "Expected value after field 'bytes:'"] := by
  let f : FlatQuery := {
    first := ⟨"severity", ⟨0, 8⟩, ⟨8, 9⟩, none, by simp⟩
    more := [
      (⟨.and, "AND", ⟨10, 13⟩, by decide⟩,
        ⟨"a", ⟨14, 15⟩, ⟨15, 16⟩, some ⟨.value "1", ⟨16, 17⟩⟩, by simp⟩),
      (⟨.or, "or", ⟨18, 20⟩, by decide⟩, ⟨"type", ⟨21, 25⟩, ⟨25, 26⟩, none, by simp⟩),
      (⟨.or, "OR", ⟨27, 29⟩, by decide⟩,
        ⟨"b", ⟨30, 31⟩, ⟨31, 32⟩, some ⟨.field "x", ⟨32, 33⟩⟩, by simp⟩),
      (⟨.and, "AND", ⟨34, 37⟩, by decide⟩, ⟨"bytes", ⟨38, 43⟩, ⟨43, 44⟩, none, by simp⟩)] }
  have htokens : tokenize "severity: AND a:1 or type: OR b:x AND bytes:" = .ok ⟨f.tokens, 44⟩ := by
    decide +kernel
  refine ⟨_, htokens, ?_⟩
  rcases ofTokens_flat f 44 (by decide) with ⟨hnone, -⟩ | ⟨-, ds, hds, hmessages, -⟩
  · exact absurd hnone (by decide)
  · exact ⟨ds, hds, hmessages.trans (by decide)⟩

end NetQuery
