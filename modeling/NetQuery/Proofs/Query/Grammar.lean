import NetQuery.Query.Parser

namespace NetQuery

namespace Grammar

/-- A token that stands for a literal. -/
inductive Value : Symbol → Literal → Prop where
  | word (s : String) : Value (.value s) (.ofWord s)
  | quoted (s : String) : Value (.quoted s) (.text s)
  | name (s : String) : Value (.field s) (.text s)
  | pattern (s : String) : Value (.wildcard s) (.text s)

/-- A bound of a range; a star is an open one. -/
inductive Bound : List Symbol → Option Literal → Prop where
  | absent : Bound [] none
  | star : Bound [.wildcard "*"] none
  | value {s : Symbol} {v : Literal} : Value s v → s ≠ .wildcard "*" → Bound [s] (some v)

/-- What may follow the colon of a field. A pattern is not read as a value. -/
inductive Condition (name : String) : List Symbol → Query → Prop where
  | eq {s : Symbol} {v : Literal} :
      Value s v → Condition name [.operator .eq, s] (.field name v (some .eq))
  | ne {s : Symbol} {v : Literal} :
      Value s v → Condition name [.operator .ne, s] (.field name v (some .ne))
  | order {s : Symbol} {v : Literal} (op : Comparison) :
      Value s v → Condition name [.operator (.order op), s] (.comparison name op v)
  | range {lo hi : List Symbol} {min max : Option Literal} (spelling : String) :
      Bound lo min → Bound hi max →
      Condition name (.openBracket :: (lo ++ .rangeTo spelling :: (hi ++ [.closeBracket])))
        (.range name min max true)
  | pattern (s : String) : Condition name [.wildcard s] (.wildcard name s)
  | value {s : Symbol} {v : Literal} :
      Value s v → (∀ p, s ≠ .wildcard p) → Condition name [s] (.field name v none)

inductive Nonterminal where
  | expression
  /-- The further operands of a disjunction, after those that make up `left`. -/
  | orMore (left : Query)
  | conjunction
  /-- The further operands of a conjunction, after those that make up `left`. -/
  | andMore (left : Query)
  | negation
  | primary

/-- The tokens spell the query as a phrase of the given kind. -/
inductive Derives : Nonterminal → List Symbol → Query → Prop where
  | expression {ts us : List Symbol} {left q : Query} :
      Derives .conjunction ts left → Derives (.orMore left) us q →
      Derives .expression (ts ++ us) q
  | orDone {q : Query} : Derives (.orMore q) [] q
  | orNext {ts us : List Symbol} {left right q : Query} (spelling : String) :
      Derives .conjunction ts right → Derives (.orMore (.or left right)) us q →
      Derives (.orMore left) (.logical .or spelling :: (ts ++ us)) q
  | conjunction {ts us : List Symbol} {left q : Query} :
      Derives .negation ts left → Derives (.andMore left) us q →
      Derives .conjunction (ts ++ us) q
  | andDone {q : Query} : Derives (.andMore q) [] q
  | andNext {ts us : List Symbol} {left right q : Query} (spelling : String) :
      Derives .negation ts right → Derives (.andMore (.and left right)) us q →
      Derives (.andMore left) (.logical .and spelling :: (ts ++ us)) q
  | andBeside {ts us : List Symbol} {left right q : Query} :
      Derives .negation ts right → Derives (.andMore (.and left right)) us q →
      Derives (.andMore left) (ts ++ us) q
  | not {ts : List Symbol} {q : Query} (spelling : String) :
      Derives .negation ts q → Derives .negation (.logical .not spelling :: ts) (.not q)
  | primary {ts : List Symbol} {q : Query} : Derives .primary ts q → Derives .negation ts q
  | group {ts : List Symbol} {q : Query} :
      Derives .expression ts q → Derives .primary (.openParen :: (ts ++ [.closeParen])) (.group q)
  | star : Derives .primary [.wildcard "*"] .matchAll
  | field {ts : List Symbol} {name : String} {q : Query} :
      Condition name ts q → Derives .primary (.field name :: .colon :: ts) q

/-- Whether a phrase of the kind has clauses of its own; there may be no further operands. -/
def Nonterminal.isWhole : Nonterminal → Bool
  | orMore _ | andMore _ => false
  | _ => true

/-- Whether a phrase of the kind would go on with the token. -/
def Nonterminal.continues : Nonterminal → Symbol → Bool
  | expression, s | orMore _, s =>
    match s with
    | .logical _ _ => true
    | s => Parser.startsClause s
  | conjunction, s | andMore _, s =>
    match s with
    | .logical connective _ => connective != .or
    | s => Parser.startsClause s
  | negation, _ | primary, _ => false

/-- A phrase of the kind ends before these tokens, as it would not go on with them. -/
def Nonterminal.EndsBefore (X : Nonterminal) (rest : List Symbol) : Prop :=
  ∀ s ∈ rest.head?, X.continues s = false

theorem Value.unique {s : Symbol} {v v' : Literal} (h : Value s v) (h' : Value s v') : v = v' := by
  cases h <;> cases h' <;> rfl

/-- No value is the TO of a range or a closing bracket. -/
theorem Value.ne {s : Symbol} {v : Literal} (h : Value s v) :
    (∀ w, s ≠ .rangeTo w) ∧ s ≠ .closeBracket ∧ (∀ op, s ≠ .operator op) ∧ s ≠ .openBracket := by
  cases h <;> simp

/-- Bounds before TO or before a closing bracket are told by their tokens. -/
theorem Bound.unique {lo lo' : List Symbol} {b b' : Option Literal} {s s' : Symbol}
    {x x' : List Symbol} (h : Bound lo b) (h' : Bound lo' b') (he : lo ++ s :: x = lo' ++ s' :: x')
    (hs : ∀ v, ¬ Value s v) (hs' : ∀ v, ¬ Value s' v) : lo = lo' ∧ b = b' := by
  have hstar : Value (.wildcard "*") (.text "*") := .pattern "*"
  cases h <;> cases h' <;> simp only [List.nil_append, List.cons_append, List.cons.injEq] at he
  case absent.absent => exact ⟨rfl, rfl⟩
  case star.star => exact ⟨rfl, rfl⟩
  case absent.star => exact absurd (he.1 ▸ hstar) (hs _)
  case absent.value hv _ => exact absurd (he.1 ▸ hv) (hs _)
  case star.absent => exact absurd (he.1 ▸ hstar) (hs' _)
  case value.absent hv _ => exact absurd (he.1 ▸ hv) (hs' _)
  case star.value hne => exact absurd he.1.symm hne
  case value.star hne => exact absurd he.1 hne
  case value.value hv _ _ _ hv' _ =>
    obtain ⟨rfl, -⟩ := he
    exact ⟨rfl, by rw [hv.unique hv']⟩

/-- Whether a token may stand in what follows the colon of a field: keywords, parentheses and colons
may not. -/
def inCondition : Symbol → Bool
  | .logical .. | .openParen | .closeParen | .colon => false
  | _ => true

theorem Value.isInCondition {s : Symbol} {v : Literal} (h : Value s v) : inCondition s = true := by
  cases h <;> rfl

theorem Bound.forall_inCondition {ts : List Symbol} {b : Option Literal} (h : Bound ts b) :
    ∀ s ∈ ts, inCondition s = true := by
  cases h with
  | absent => simp
  | star => exact List.forall_mem_singleton.mpr rfl
  | value hv => exact List.forall_mem_singleton.mpr hv.isInCondition

theorem Condition.forall_inCondition {name : String} {ts : List Symbol} {q : Query}
    (h : Condition name ts q) : ∀ s ∈ ts, inCondition s = true := by
  cases h with
  | eq hv | ne hv | order _ hv =>
    exact List.forall_mem_cons.mpr ⟨rfl, List.forall_mem_singleton.mpr hv.isInCondition⟩
  | range spelling hlo hhi =>
    have hlo := hlo.forall_inCondition
    have hhi := hhi.forall_inCondition
    simp only [List.forall_mem_cons, List.forall_mem_append]
    exact ⟨rfl, hlo, rfl, hhi, rfl, by simp⟩
  | pattern => exact List.forall_mem_singleton.mpr rfl
  | value hv => exact List.forall_mem_singleton.mpr hv.isInCondition

/-- What follows a colon is told by its tokens. -/
theorem Condition.unique {name : String} {ts ts' x x' : List Symbol} {q q' : Query}
    (h : Condition name ts q) (h' : Condition name ts' q') (he : ts ++ x = ts' ++ x') :
    ts = ts' ∧ q = q' := by
  cases h <;> cases h' <;>
    simp only [List.cons_append, List.nil_append, List.append_assoc, List.cons.injEq,
      Symbol.operator.injEq, Operator.order.injEq, reduceCtorEq, false_and] at he
  case eq.eq hv _ _ hv' | ne.ne hv _ _ hv' =>
    obtain ⟨-, rfl, -⟩ := he
    exact ⟨rfl, by rw [hv.unique hv']⟩
  case order.order hv _ _ _ hv' =>
    obtain ⟨rfl, rfl, -⟩ := he
    exact ⟨rfl, by rw [hv.unique hv']⟩
  case range.range hlo hhi _ _ _ _ _ hlo' hhi' =>
    obtain ⟨rfl, rfl⟩ := hlo.unique hlo' he.2 (fun v hv => hv.ne.1 _ rfl) fun v hv => hv.ne.1 _ rfl
    obtain ⟨hto, hend⟩ := List.cons.inj (List.append_cancel_left he.2)
    cases hto
    obtain ⟨rfl, rfl⟩ := hhi.unique hhi' hend (fun v hv => hv.ne.2.1 rfl) fun v hv => hv.ne.2.1 rfl
    exact ⟨rfl, rfl⟩
  case pattern.pattern =>
    obtain ⟨hp, -⟩ := he
    cases hp
    exact ⟨rfl, rfl⟩
  case value.value hv _ _ _ hv' _ =>
    obtain ⟨rfl, -⟩ := he
    exact ⟨rfl, by rw [hv.unique hv']⟩
  -- A pattern is no value, and neither is an operator or a bracket.
  case pattern.value hp => exact absurd he.1.symm (hp _)
  case value.pattern hp _ => exact absurd he.1 (hp _)
  case eq.value hv _ | ne.value hv _ | order.value hv _ => exact absurd he.1.symm (hv.ne.2.2.1 _)
  case range.value hv _ => exact absurd he.1.symm hv.ne.2.2.2
  case value.eq hv _ _ _ _ | value.ne hv _ _ _ _ | value.order hv _ _ _ _ _ =>
    exact absurd he.1 (hv.ne.2.2.1 _)
  case value.range hv _ _ _ _ _ _ _ _ => exact absurd he.1 hv.ne.2.2.2

variable {ts : List Symbol} {left q : Query}

/-- The first token of a whole phrase tells that a clause begins. -/
theorem Derives.starts {X : Nonterminal} (h : Derives X ts q) (hX : X.isWhole = true) :
    ∃ s rest, ts = s :: rest ∧ Parser.startsClause s = true := by
  induction h with
  | expression _ _ ih _ | conjunction _ _ ih _ =>
    obtain ⟨s, rest, rfl, hs⟩ := ih rfl
    exact ⟨s, rest ++ _, rfl, hs⟩
  | not | group | field => exact ⟨_, _, rfl, rfl⟩
  | primary _ ih => exact ih rfl
  | star => exact ⟨_, _, rfl, by decide⟩
  | _ => cases hX

theorem Derives.ne_nil {X : Nonterminal} (h : Derives X ts q) (hX : X.isWhole = true) :
    ts ≠ [] := by
  obtain ⟨s, rest, rfl, -⟩ := h.starts hX
  exact List.cons_ne_nil s rest

theorem Nonterminal.endsBefore_cons {X : Nonterminal} {s : Symbol} {rest : List Symbol} :
    X.EndsBefore (s :: rest) ↔ X.continues s = false := by
  simp [EndsBefore]

/-- A conjunction takes every clause that comes next. -/
theorem Nonterminal.continues_of_startsClause {s : Symbol} (hs : Parser.startsClause s = true) :
    (andMore left).continues s = true := by
  cases s with
  | logical connective _ =>
    cases connective with
    | or => cases hs
    | _ => rfl
  | _ => exact hs

theorem Nonterminal.not_endsBefore_or {spelling : String} {rest : List Symbol} :
    ¬ (orMore left).EndsBefore (.logical .or spelling :: rest) := by
  simp [endsBefore_cons, continues]

theorem Nonterminal.not_endsBefore_and {spelling : String} {rest : List Symbol} :
    ¬ (andMore left).EndsBefore (.logical .and spelling :: rest) := by
  simp [endsBefore_cons, continues]

/-- A negation cannot follow a conjunction that ends before it. -/
theorem Derives.not_endsBefore_andMore {x : List Symbol} (h : Derives .negation ts q) :
    ¬ (Nonterminal.andMore left).EndsBefore (ts ++ x) := by
  obtain ⟨s, rest, rfl, hs⟩ := h.starts rfl
  intro hx
  rw [List.cons_append, Nonterminal.endsBefore_cons,
    Nonterminal.continues_of_startsClause hs] at hx
  cases hx

/-- An operand cannot be read as the keyword before it. -/
theorem Derives.negation_ne_and {x y : List Symbol} {spelling : String}
    (h : Derives .negation ts q) : ts ++ x ≠ .logical .and spelling :: y := by
  obtain ⟨s, rest, rfl, hs⟩ := h.starts rfl
  intro he
  rw [List.cons_append, List.cons.injEq] at he
  rw [he.1] at hs
  cases hs

theorem Derives.primary_ne_not {x y : List Symbol} {spelling : String}
    (h : Derives .primary ts q) : ts ++ x ≠ .logical .not spelling :: y := by
  cases h <;> simp

/-- A conjunction ends where the disjunction that it is an operand of goes on or ends. -/
theorem Derives.conjunction_endsBefore {x : List Symbol} (h : Derives (.orMore left) ts q)
    (hx : Nonterminal.expression.EndsBefore x) : Nonterminal.conjunction.EndsBefore (ts ++ x) := by
  cases h with
  | orDone =>
    intro s hs
    have hc := hx s hs
    cases s <;> first | cases hc; done | exact hc
  | orNext => exact Nonterminal.endsBefore_cons.mpr rfl

/-- Of the phrases of this kind only this one begins with its tokens, wherever both end before those
that follow. -/
def Told (X : Nonterminal) (ts : List Symbol) (q : Query) : Prop :=
  ∀ ⦃ts' x x' : List Symbol⦄ ⦃q' : Query⦄, Derives X ts' q' → ts ++ x = ts' ++ x' →
    X.EndsBefore x → X.EndsBefore x' → ts = ts' ∧ q = q'

namespace Told

variable {us : List Symbol} {right : Query}

/-- An operand and the further operands behind it are told one after the other. -/
theorem append {X : Nonterminal} (further : Query → Nonterminal) {ts' us' x x' : List Symbol}
    {right' q' : Query} (hts : Told X ts right) (hus : Told (further right) us q)
    (hts' : Derives X ts' right') (hus' : Derives (further right') us' q')
    (he : ts ++ (us ++ x) = ts' ++ (us' ++ x')) (hmid : X.EndsBefore (us ++ x))
    (hmid' : X.EndsBefore (us' ++ x')) (hx : (further right).EndsBefore x)
    (hx' : (further right').EndsBefore x') : ts ++ us = ts' ++ us' ∧ q = q' := by
  obtain ⟨rfl, rfl⟩ := hts hts' he hmid hmid'
  obtain ⟨rfl, rfl⟩ := hus hus' (List.append_cancel_left he) hx hx'
  exact ⟨rfl, rfl⟩

theorem expression (hfirst : Told .conjunction ts left) (hmore : Told (.orMore left) us q)
    (hd : Derives (.orMore left) us q) : Told .expression (ts ++ us) q := by
  intro ts' x x' q' h' he hx hx'
  cases h' with
  | expression hfirst' hd' =>
    rw [List.append_assoc, List.append_assoc] at he
    exact hfirst.append .orMore hmore hfirst' hd' he (hd.conjunction_endsBefore hx)
      (hd'.conjunction_endsBefore hx') hx hx'

theorem orDone : Told (.orMore q) [] q := by
  intro ts' x x' q' h' he hx hx'
  cases h' with
  | orDone => exact ⟨rfl, rfl⟩
  | orNext =>
    rw [List.nil_append] at he
    subst he
    exact absurd hx Nonterminal.not_endsBefore_or

theorem orNext (spelling : String) (hfirst : Told .conjunction ts right)
    (hmore : Told (.orMore (.or left right)) us q) (hd : Derives (.orMore (.or left right)) us q) :
    Told (.orMore left) (.logical .or spelling :: (ts ++ us)) q := by
  intro ts' x x' q' h' he hx hx'
  cases h' with
  | orDone =>
    rw [List.nil_append] at he
    subst he
    exact absurd hx' Nonterminal.not_endsBefore_or
  | orNext _ hfirst' hd' =>
    simp only [List.cons_append, List.append_assoc, List.cons.injEq] at he
    obtain ⟨hor, he⟩ := he
    obtain ⟨hts, hq⟩ := hfirst.append (fun right => .orMore (.or left right)) hmore hfirst' hd' he
      (hd.conjunction_endsBefore hx) (hd'.conjunction_endsBefore hx') hx hx'
    exact ⟨by rw [hor, hts], hq⟩

theorem conjunction (hfirst : Told .negation ts left) (hmore : Told (.andMore left) us q) :
    Told .conjunction (ts ++ us) q := by
  intro ts' x x' q' h' he hx hx'
  cases h' with
  | conjunction hfirst' hd' =>
    rw [List.append_assoc, List.append_assoc] at he
    exact hfirst.append .andMore hmore hfirst' hd' he (fun _ _ => rfl) (fun _ _ => rfl) hx hx'

theorem andDone : Told (.andMore q) [] q := by
  intro ts' x x' q' h' he hx hx'
  cases h' with
  | andDone => exact ⟨rfl, rfl⟩
  | andNext =>
    rw [List.nil_append] at he
    subst he
    exact absurd hx Nonterminal.not_endsBefore_and
  | andBeside hfirst' _ =>
    rw [List.nil_append, List.append_assoc] at he
    subst he
    exact absurd hx hfirst'.not_endsBefore_andMore

theorem andNext (spelling : String) (hfirst : Told .negation ts right)
    (hmore : Told (.andMore (.and left right)) us q) :
    Told (.andMore left) (.logical .and spelling :: (ts ++ us)) q := by
  intro ts' x x' q' h' he hx hx'
  cases h' with
  | andDone =>
    rw [List.nil_append] at he
    subst he
    exact absurd hx' Nonterminal.not_endsBefore_and
  | andNext _ hfirst' hd' =>
    simp only [List.cons_append, List.append_assoc, List.cons.injEq] at he
    obtain ⟨hand, he⟩ := he
    obtain ⟨hts, hq⟩ := hfirst.append (fun right => .andMore (.and left right)) hmore hfirst' hd'
      he (fun _ _ => rfl) (fun _ _ => rfl) hx hx'
    exact ⟨by rw [hand, hts], hq⟩
  | andBeside hfirst' _ =>
    rw [List.append_assoc, List.cons_append] at he
    exact absurd he.symm hfirst'.negation_ne_and

theorem andBeside (hfirst : Told .negation ts right)
    (hmore : Told (.andMore (.and left right)) us q) (hd : Derives .negation ts right) :
    Told (.andMore left) (ts ++ us) q := by
  intro ts' x x' q' h' he hx hx'
  cases h' with
  | andDone =>
    rw [List.nil_append, List.append_assoc] at he
    subst he
    exact absurd hx' hd.not_endsBefore_andMore
  | andNext _ _ _ =>
    rw [List.append_assoc, List.cons_append] at he
    exact absurd he hd.negation_ne_and
  | andBeside hfirst' hd' =>
    rw [List.append_assoc, List.append_assoc] at he
    exact hfirst.append (fun right => .andMore (.and left right)) hmore hfirst' hd' he
      (fun _ _ => rfl) (fun _ _ => rfl) hx hx'

theorem not (spelling : String) (h : Told .negation ts q) :
    Told .negation (.logical .not spelling :: ts) (.not q) := by
  intro ts' x x' q' h' he hx hx'
  cases h' with
  | not _ h' =>
    simp only [List.cons_append, List.cons.injEq] at he
    obtain ⟨hnot, he⟩ := he
    obtain ⟨rfl, rfl⟩ := h h' he hx hx'
    exact ⟨by rw [hnot], rfl⟩
  | primary h' => exact absurd he.symm h'.primary_ne_not

theorem primary (h : Told .primary ts q) (hd : Derives .primary ts q) : Told .negation ts q := by
  intro ts' x x' q' h' he hx hx'
  cases h' with
  | not => exact absurd he hd.primary_ne_not
  | primary h' => exact h h' he hx hx'

theorem group (h : Told .expression ts q) :
    Told .primary (.openParen :: (ts ++ [.closeParen])) (.group q) := by
  intro ts' x x' q' h' he _ _
  cases h' with
  | group h' =>
    simp only [List.cons_append, List.append_assoc, List.cons.injEq, true_and] at he
    obtain ⟨rfl, rfl⟩ := h h' he (Nonterminal.endsBefore_cons.mpr rfl)
      (Nonterminal.endsBefore_cons.mpr rfl)
    exact ⟨rfl, rfl⟩
  | _ => cases he

theorem star : Told .primary [.wildcard "*"] .matchAll := by
  intro ts' x x' q' h' he _ _
  cases h' with
  | star => exact ⟨rfl, rfl⟩
  | _ => cases he

theorem field {name : String} (hc : Condition name ts q) :
    Told .primary (.field name :: .colon :: ts) q := by
  intro ts' x x' q' h' he _ _
  cases h' with
  | field hc' =>
    simp only [List.cons_append, List.cons.injEq, true_and] at he
    obtain ⟨hname, he⟩ := he
    cases hname
    obtain ⟨rfl, rfl⟩ := hc.unique hc' he
    exact ⟨rfl, rfl⟩
  | _ => cases he

end Told

/-- A phrase of a kind is told by its tokens, where it ends before those that follow. -/
theorem Derives.unique {X : Nonterminal} (h : Derives X ts q) : Told X ts q := by
  induction h with
  | expression _ hmore ihfirst ihmore => exact .expression ihfirst ihmore hmore
  | orDone => exact .orDone
  | orNext spelling _ hmore ihfirst ihmore => exact .orNext spelling ihfirst ihmore hmore
  | conjunction _ _ ihfirst ihmore => exact .conjunction ihfirst ihmore
  | andDone => exact .andDone
  | andNext spelling _ _ ihfirst ihmore => exact .andNext spelling ihfirst ihmore
  | andBeside hfirst _ ihfirst ihmore => exact .andBeside ihfirst ihmore hfirst
  | not spelling _ ih => exact .not spelling ih
  | primary h ih => exact .primary ih h
  | group _ ih => exact .group ih
  | star => exact .star
  | field hc => exact .field hc

/-- A list of tokens spells one query at most. -/
theorem Derives.eq_of_expression {q' : Query} (h : Derives .expression ts q)
    (h' : Derives .expression ts q') : q = q' := by
  have hend : Nonterminal.expression.EndsBefore [] := by simp [Nonterminal.EndsBefore]
  have he : ts ++ [] = ts ++ [] := rfl
  exact (h.unique h' he hend hend).2

end Grammar

end NetQuery
