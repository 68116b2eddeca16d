import NetQuery.Proofs.Query.Machine

namespace NetQuery

open NetQuery.Parser

namespace Machine

variable {tokens : Tokens} {m m₀ m' m'' : Machine} {t : Token} {why : Diagnostic}

def rest (tokens : Tokens) (m : Machine) : List Token :=
  tokens.items.drop m.position

/-- Where a reader without counters stands. -/
def cursor (tokens : Tokens) (m : Machine) : Cursor :=
  ⟨m.rest tokens, tokens.finish, m.clauses⟩

theorem cursor_rest : (m.cursor tokens).rest = m.rest tokens := rfl

theorem rest_of_peek (h : m.peek tokens = some t) :
    m.rest tokens = t :: (m.advance tokens).rest tokens := by
  obtain ⟨hlt, rfl⟩ := List.getElem?_eq_some_iff.mp h
  have hcount : m.position < tokens.count := Nat.lt_succ_of_lt hlt
  simp only [rest, advance, if_pos hcount]
  exact List.drop_eq_getElem_cons hlt

theorem peek_of_rest {ts : List Token} (h : m.rest tokens = t :: ts) :
    m.peek tokens = some t ∧ ts = (m.advance tokens).rest tokens := by
  have hpeek : m.peek tokens = some t := by
    have hhead := congrArg List.head? h
    rw [rest, List.head?_drop] at hhead
    exact hhead
  refine ⟨hpeek, ?_⟩
  rw [rest_of_peek hpeek] at h
  exact (List.cons.inj h).2.symm

theorem peek_of_rest_nil (h : m.rest tokens = []) : m.peek tokens = none := by
  cases hpeek : m.peek tokens with
  | none => rfl
  | some t =>
    rw [rest_of_peek hpeek] at h
    cases h

theorem rest_of_peek_none (h : m.peek tokens = none) : m.rest tokens = [] :=
  List.drop_eq_nil_of_le (List.getElem?_eq_none_iff.mp h)

theorem atEnd_eq : m.atEnd tokens = (m.rest tokens).isEmpty := by
  unfold atEnd
  cases h : m.peek tokens with
  | none => simp [rest_of_peek_none h]
  | some t => simp [rest_of_peek h]

theorem nextSpan_cursor : Parser.nextSpan (m.cursor tokens) = m.nextSpan tokens := by
  unfold nextSpan Parser.nextSpan cursor
  cases h : m.peek tokens with
  | none => simp [rest_of_peek_none h]
  | some t => simp [rest_of_peek h]

theorem isDangling_rest : isDangling (m.rest tokens) = isDangling (m.peek tokens).toList := by
  cases h : m.peek tokens with
  | none =>
    rw [rest_of_peek_none h]
    rfl
  | some t =>
    obtain ⟨symbol, span⟩ := t
    rw [rest_of_peek h]
    cases symbol <;> rfl

/-- What a reading keeps, however it ends: the depth is what it was, and the position has not gone
back, nor beyond the last token. -/
structure Kept (tokens : Tokens) (m m' : Machine) : Prop where
  depth : m'.depth = m.depth
  forward : m.position ≤ m'.position
  within : m'.position ≤ max m.position tokens.items.length

/-- A reading that found no fault counted no clause too many. -/
structure Since (tokens : Tokens) (m m' : Machine) : Prop extends Kept tokens m m' where
  exhausted : m'.exhausted = m.exhausted
  clauses : m.clauses ≤ maxClauses → m'.clauses ≤ maxClauses

/-- A reading that ended with a fault counted too many clauses just where the fault says so. -/
structure Stopped (tokens : Tokens) (m : Machine) (why : Diagnostic) (m' : Machine) : Prop
    extends Kept tokens m m' where
  exhausted : m'.exhausted = true ↔ m.exhausted = true ∨ why.fault = .tooManyClauses
  clauses : m.clauses ≤ maxClauses → (maxClauses < m'.clauses ↔ why.fault = .tooManyClauses)

theorem Kept.refl (m : Machine) : Kept tokens m m :=
  ⟨rfl, Nat.le_refl _, Nat.le_max_left ..⟩

theorem Kept.trans (h : Kept tokens m m') (h' : Kept tokens m' m'') : Kept tokens m m'' where
  depth := h'.depth.trans h.depth
  forward := Nat.le_trans h.forward h'.forward
  within := by
    have hwithin := h.within
    have hwithin' := h'.within
    omega

theorem Since.refl (m : Machine) : Since tokens m m :=
  ⟨.refl m, rfl, id⟩

theorem Since.trans (h : Since tokens m m') (h' : Since tokens m' m'') : Since tokens m m'' where
  toKept := h.toKept.trans h'.toKept
  exhausted := h'.exhausted.trans h.exhausted
  clauses := h'.clauses ∘ h.clauses

theorem Since.stop (h : Since tokens m m') (hwhy : why.fault ≠ .tooManyClauses) :
    Stopped tokens m why m' where
  toKept := h.toKept
  exhausted := by simp [h.exhausted, hwhy]
  clauses hm := iff_of_false (Nat.not_lt.mpr (h.clauses hm)) hwhy

theorem Since.stopped (h : Since tokens m m') (h' : Stopped tokens m' why m'') :
    Stopped tokens m why m'' where
  toKept := h.toKept.trans h'.toKept
  exhausted := by rw [h'.exhausted, h.exhausted]
  clauses hm := h'.clauses (h.clauses hm)

theorem Stopped.since (h : Stopped tokens m why m') (hwhy : why.fault ≠ .tooManyClauses) :
    Since tokens m m' where
  toKept := h.toKept
  exhausted := by
    have hiff := h.exhausted
    rw [or_iff_left hwhy] at hiff
    exact Bool.eq_iff_iff.mpr hiff
  clauses hm := Nat.not_lt.mp fun hmany => hwhy ((h.clauses hm).mp hmany)

theorem position_advance (h : m.peek tokens = some t) :
    (m.advance tokens).position = m.position + 1 ∧ m.position < tokens.items.length := by
  obtain ⟨hlt, -⟩ := List.getElem?_eq_some_iff.mp h
  exact ⟨if_pos (Nat.lt_succ_of_lt hlt), hlt⟩

theorem Since.advance (h : m.peek tokens = some t) : Since tokens m (m.advance tokens) := by
  obtain ⟨hposition, hlt⟩ := position_advance h
  refine ⟨⟨rfl, ?_, ?_⟩, rfl, id⟩ <;> rw [hposition] <;> omega

theorem lt_advance (h : m.peek tokens = some t) : m.position < (m.advance tokens).position := by
  have hposition := (position_advance h).1
  omega

/-- The machine comes to the outcome of the reader without counters, and keeps its own. What was
read without a fault holds a token at least. -/
inductive Agrees (tokens : Tokens) (m : Machine) : Outcome Query → Answer Query → Prop where
  | ok {q : Query} {m' : Machine} (h : Since tokens m m') (hlt : m.position < m'.position) :
    Agrees tokens m (.ok q (m'.cursor tokens)) (.ok q, m')
  | fail {why : Diagnostic} {m' : Machine} (h : Stopped tokens m why m') :
    Agrees tokens m (.fail why (m'.cursor tokens)) (.error why, m')

/-- What was read before counts as well. -/
theorem Agrees.since {o : Outcome Query} {r : Answer Query} (h : Since tokens m m')
    (h' : Agrees tokens m' o r) : Agrees tokens m o r := by
  cases h' with
  | ok hsince hlt => exact .ok (h.trans hsince) (Nat.lt_of_le_of_lt h.forward hlt)
  | fail hstop => exact .fail (h.stopped hstop)

theorem Since.fail (h : Since tokens m m') (f : Fault) (span : Option Span)
    (hf : f ≠ .tooManyClauses) :
    Agrees tokens m (.fail ⟨f, span⟩ (m'.cursor tokens)) (.error ⟨f, span⟩, m') :=
  .fail (h.stop hf)

/-- No reader of a bound counts a clause. -/
theorem bound_agrees (tokens : Tokens) (m : Machine) : ∃ value m', m.bound tokens = (value, m') ∧
    rangeBound (m.rest tokens) = (value, m'.rest tokens) ∧ Since tokens m m' ∧
    m'.clauses = m.clauses := by
  unfold bound
  cases h : m.peek tokens with
  | none =>
    exact ⟨none, m, by simp [literal, h], by simp [rest_of_peek_none h, rangeBound], .refl m, rfl⟩
  | some t =>
    rw [Option.any_some, rest_of_peek h]
    by_cases hstar : isStar t.symbol = true
    · exact ⟨none, m.advance tokens, if_pos hstar, if_pos hstar, .advance h, rfl⟩
    · rw [if_neg hstar, rangeBound, if_neg hstar]
      cases hvalue : literal? t.symbol with
      | none =>
        exact ⟨none, m, by simp [literal, h, hvalue], by rw [rest_of_peek h], .refl m, rfl⟩
      | some value =>
        exact ⟨some value, m.advance tokens, by simp [literal, h, hvalue], rfl, .advance h, rfl⟩

/-- Without a clause counted, only the tokens to read tell the places apart. -/
theorem cursor_with (h : m'.clauses = m.clauses) :
    { m.cursor tokens with rest := m'.rest tokens } = m'.cursor tokens := by
  rw [cursor, cursor, h]

theorem rangeBody_agrees (name : String) (m : Machine) :
    Agrees tokens m (Parser.rangeBody name (m.cursor tokens)) (m.rangeBody tokens name) := by
  obtain ⟨min, m₁, hmin, hlist₁, hm₁, hclauses₁⟩ := m.bound_agrees tokens
  have hbound₁ : rangeBound (m.cursor tokens).rest = (min, m₁.rest tokens) := hlist₁
  unfold Parser.rangeBody rangeBody
  rw [hmin, hbound₁]
  simp only [cursor_with hclauses₁, nextSpan_cursor]
  split
  · next rest hrest =>
    obtain ⟨hpeek, rfl⟩ := peek_of_rest hrest
    obtain ⟨max, m₂, hmax, hlist₂, hm₂, hclauses₂⟩ := (m₁.advance tokens).bound_agrees tokens
    have hsince : Since tokens m m₂ := (hm₁.trans (.advance hpeek)).trans hm₂
    have hclauses : m₂.clauses = m.clauses := hclauses₂.trans hclauses₁
    simp only [hpeek, hmax, hlist₂, cursor_with hclauses, nextSpan_cursor]
    split
    · next hrest₂ =>
      obtain ⟨hpeek₂, rfl⟩ := peek_of_rest hrest₂
      have hclauses₃ : (m₂.advance tokens).clauses = m.clauses := hclauses
      have hlt := Nat.lt_of_le_of_lt hsince.forward (lt_advance hpeek₂)
      simp only [hpeek₂, cursor_with hclauses₃]
      exact .ok (hsince.trans (.advance hpeek₂)) hlt
    · next hne =>
      split
      · next hpeek₂ => exact absurd (rest_of_peek hpeek₂) (hne _ _)
      · exact hsince.fail _ _ (by simp)
  · next hne =>
    split
    · next hpeek => exact absurd (rest_of_peek hpeek) (hne _ _ _)
    · exact hm₁.fail _ _ (by simp)

theorem fieldValue_agrees (name : String) (span : Span) (m : Machine) :
    Agrees tokens m (Parser.fieldValue name span (m.cursor tokens))
      (m.fieldValue tokens name span) := by
  unfold Parser.fieldValue fieldValue
  simp only [cursor_rest]
  split
  · next op opSpan rest hrest =>
    obtain ⟨hpeek, rfl⟩ := peek_of_rest hrest
    have hsince : Since tokens m (m.advance tokens) := .advance hpeek
    simp only [hpeek, literal]
    split
    · next t after hrest' =>
      obtain ⟨hpeek', rfl⟩ := peek_of_rest hrest'
      rw [hpeek', Option.bind_some]
      cases literal? t.symbol with
      | none => exact hsince.fail _ _ (by simp)
      | some value =>
        exact .ok (hsince.trans (.advance hpeek'))
          (Nat.lt_trans (lt_advance hpeek) (lt_advance hpeek'))
    · next hrest' =>
      rw [peek_of_rest_nil hrest']
      exact hsince.fail _ _ (by simp)
  · next hrest =>
    obtain ⟨hpeek, rfl⟩ := peek_of_rest hrest
    simp only [hpeek]
    exact (rangeBody_agrees name (m.advance tokens)).since (.advance hpeek)
  · next pattern _ rest hrest =>
    obtain ⟨hpeek, rfl⟩ := peek_of_rest hrest
    simp only [hpeek]
    exact .ok (.advance hpeek) (lt_advance hpeek)
  · next t rest hop hbracket hwildcard hrest =>
    obtain ⟨hpeek, rfl⟩ := peek_of_rest hrest
    obtain ⟨symbol, place⟩ := t
    simp only [hpeek, literal, Option.bind_some]
    cases symbol with
    | operator op => exact absurd rfl (hop op place)
    | openBracket => exact absurd rfl (hbracket place)
    | wildcard pattern => exact absurd rfl (hwildcard pattern place)
    | field s | value s | quoted s => exact .ok (.advance hpeek) (lt_advance hpeek)
    | _ => exact (Since.refl m).fail _ _ (by simp)
  · next hrest =>
    simp only [peek_of_rest_nil hrest, literal, Option.bind_none]
    exact (Since.refl m).fail _ _ (by simp)

theorem fieldClause_agrees (name : String) (span : Span) (h : m.peek tokens = some t) :
    Agrees tokens m (Parser.fieldClause name span ((m.advance tokens).cursor tokens))
      (m.fieldClause tokens name span) := by
  have hsince : Since tokens m (m.advance tokens) := .advance h
  unfold Parser.fieldClause fieldClause
  simp only [cursor_rest]
  split
  · next hrest =>
    obtain ⟨hpeek, rfl⟩ := peek_of_rest hrest
    simp only [hpeek]
    exact (fieldValue_agrees name span _).since (hsince.trans (.advance hpeek))
  · next hne =>
    split
    · next hpeek => exact absurd (rest_of_peek hpeek) (hne _ _)
    · exact hsince.fail _ _ (by simp)

/-- Counting a clause ends the reading where there are too many, and only there. -/
theorem counted_agrees {span : Span} {read : Cursor → Outcome Query}
    {read' : Machine → Answer Query}
    (h : Agrees tokens m.tallied (read (m.tallied.cursor tokens)) (read' m.tallied)) :
    Agrees tokens m (Parser.counted span (m.cursor tokens) read) (m.counted span read') := by
  have hcount : Parser.counted span (m.cursor tokens) read =
      if maxClauses < m.clauses + 1 then
        .fail ⟨.tooManyClauses, some span⟩ (m.tallied.cursor tokens)
      else read (m.tallied.cursor tokens) := rfl
  have hcount' : m.counted span read' =
      if maxClauses < m.clauses + 1 then
        (.error ⟨.tooManyClauses, some span⟩, { m.tallied with exhausted := true })
      else read' m.tallied := rfl
  have hkept : Kept tokens m m.tallied := ⟨rfl, Nat.le_refl _, Nat.le_max_left ..⟩
  rw [hcount, hcount']
  by_cases hmany : maxClauses < m.clauses + 1
  · have hstop : Stopped tokens m ⟨.tooManyClauses, some span⟩
        { m.tallied with exhausted := true } :=
      ⟨⟨hkept.depth, hkept.forward, hkept.within⟩, by simp, fun _ => iff_of_true hmany rfl⟩
    rw [if_pos hmany, if_pos hmany]
    exact .fail hstop
  · have hsince : Since tokens m m.tallied := ⟨hkept, rfl, fun _ => Nat.not_lt.mp hmany⟩
    rw [if_neg hmany, if_neg hmany]
    exact h.since hsince

/-- The group that began at `m₀` ends with a closing parenthesis. -/
theorem closeGroup_agrees (hm : Since tokens m₀ m) (hlt : m₀.position < m.position) (body : Query) :
    Agrees tokens m₀
      (match (m.cursor tokens).rest with
        | ⟨.closeParen, _⟩ :: rest => .ok (.group body) { m.cursor tokens with rest }
        | _ => .fail ⟨.openGroup, some (Parser.nextSpan (m.cursor tokens))⟩ (m.cursor tokens))
      (m.closeGroup tokens body) := by
  unfold closeGroup
  simp only [cursor_rest]
  split
  · next hrest =>
    obtain ⟨hpeek, rfl⟩ := peek_of_rest hrest
    rw [hpeek]
    exact .ok (hm.trans (.advance hpeek)) (Nat.lt_trans hlt (lt_advance hpeek))
  · next hne =>
    rw [nextSpan_cursor]
    split
    · next hpeek => exact absurd (rest_of_peek hpeek) (hne _ _)
    · exact hm.fail _ _ (by simp)

end Machine

end NetQuery
