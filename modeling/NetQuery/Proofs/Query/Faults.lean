import NetQuery.Proofs.Query.Reading

namespace NetQuery

open NetQuery.Parser

/-- The fault shows at a token that was taken or at the next one; in the second case it may be that
this token has no place. -/
inductive Diagnostic.ShowsAt (used : List Token) (after : Cursor) : Diagnostic → Prop where
  | taken {fault : Fault} {t : Token} (ht : t ∈ used) (hfault : ∀ t, fault ≠ .unexpected t) :
      ShowsAt used after ⟨fault, some t.span⟩
  | next {fault : Fault} (hfault : ∀ t, fault ≠ .unexpected t)
      (hword : ∀ w, fault ≠ .missingExpression w) :
      ShowsAt used after ⟨fault, some (nextSpan after)⟩
  | unexpected {t : Token} {rest : List Token} (hrest : after.rest = t :: rest) :
      ShowsAt used after ⟨.unexpected t, some t.span⟩

/-- A reader that begins at `c` fails at `after`, behind the tokens it has taken. -/
structure Cursor.Fails (c : Cursor) (why : Diagnostic) (after : Cursor) : Prop where
  shows : ∃ used, c.rest = used ++ after.rest ∧ why.ShowsAt used after
  finish : after.finish = c.finish

variable {c mid after : Cursor} {why : Diagnostic} {t : Token} {rest : List Token} {name : String}
  {left : Query} {levels : Nat}

theorem Diagnostic.ShowsAt.append {used : List Token} (h : why.ShowsAt used after)
    (before : List Token) : why.ShowsAt (before ++ used) after := by
  cases h with
  | taken ht hfault => exact .taken (List.mem_append_right _ ht) hfault
  | next hfault hword => exact .next hfault hword
  | unexpected hrest => exact .unexpected hrest

namespace Cursor.Fails

/-- What is taken before a reader that fails is taken as well. -/
theorem of_takes {ts : List Symbol} {n : Nat} (ht : c.Takes ts n mid) (h : mid.Fails why after) :
    c.Fails why after := by
  obtain ⟨before, -, hbefore⟩ := ht.rest
  obtain ⟨used, hused, hshows⟩ := h.shows
  refine ⟨⟨before ++ used, ?_, hshows.append before⟩, h.finish.trans ht.finish⟩
  rw [hbefore, hused, List.append_assoc]

theorem cons (hc : c.rest = t :: rest) (h : Cursor.Fails { c with rest } why after) :
    c.Fails why after :=
  of_takes (.cons hc (.refl _)) h

theorem behind {fault : Fault} (hc : c.rest = t :: rest) (hfault : ∀ t, fault ≠ .unexpected t) :
    c.Fails ⟨fault, some t.span⟩ { c with rest } :=
  ⟨⟨[t], hc, .taken List.mem_cons_self hfault⟩, rfl⟩

theorem here {fault : Fault} (hfault : ∀ t, fault ≠ .unexpected t)
    (hword : ∀ w, fault ≠ .missingExpression w) : c.Fails ⟨fault, some (nextSpan c)⟩ c :=
  ⟨⟨[], rfl, .next hfault hword⟩, rfl⟩

theorem of_clauses {n : Nat} (h : Cursor.Fails { c with clauses := n } why after) :
    c.Fails why after :=
  ⟨h.shows, h.finish⟩

end Cursor.Fails

namespace Parser

theorem rangeBody_fails (h : rangeBody name c = .fail why after) : c.Fails why after := by
  obtain ⟨used, -, hrest⟩ := rangeBound_takes c.rest
  simp only [rangeBody] at h
  generalize rangeBound c.rest = lower at h hrest
  have hlower : c.Takes (used.map Token.symbol) 0 { c with rest := lower.2 } :=
    ⟨⟨used, rfl, hrest⟩, rfl, rfl⟩
  split at h
  · next spelling span rest hto =>
    obtain ⟨used', -, hrest'⟩ := rangeBound_takes rest
    generalize rangeBound rest = upper at h hrest'
    have hupper : Cursor.Takes { c with rest } (used'.map Token.symbol) 0
        { c with rest := upper.2 } := ⟨⟨used', rfl, hrest'⟩, rfl, rfl⟩
    split at h
    · cases h
    · cases h
      exact .of_takes hlower (.cons hto (.of_takes hupper (.here (by simp) (by simp))))
  · cases h
    exact .of_takes hlower (.here (by simp) (by simp))

/-- What follows the colon of a field fails behind it, or there is nothing that could follow. -/
theorem fieldValue_fails {span : Span} (h : fieldValue name span c = .fail why after) :
    c.Fails why after ∨ why = ⟨.missingValue name, some span⟩ ∧ after = c := by
  unfold fieldValue at h
  split at h
  · next op opSpan rest hrest =>
    left
    split at h
    · split at h
      · cases h
      · cases h
        exact .behind hrest (by simp)
    · cases h
      exact .behind hrest (by simp)
  · next hrest => exact .inl (.cons hrest (rangeBody_fails h))
  · cases h
  · split at h
    · cases h
    · cases h
      exact .inr ⟨rfl, rfl⟩
  · cases h
    exact .inr ⟨rfl, rfl⟩

theorem fieldClause_fails {span : Span} (hc : c.rest = ⟨.field name, span⟩ :: rest)
    (h : fieldClause name span { c with rest } = .fail why after) : c.Fails why after := by
  unfold fieldClause at h
  split at h
  · next colonSpan rest' hcolon =>
    rcases fieldValue_fails h with hfails | ⟨rfl, rfl⟩
    · exact .cons hc (.cons hcolon hfails)
    · have hrest : c.rest = [⟨.field name, span⟩, ⟨.colon, colonSpan⟩] ++ rest' := by
        rw [hc]
        exact congrArg _ hcolon
      exact ⟨⟨_, hrest, .taken List.mem_cons_self (by simp)⟩, rfl⟩
  · cases h
    exact .behind hc (by simp)

theorem counted_fails {read : Cursor → Outcome Query} (hc : c.rest = t :: rest)
    (hread : ∀ {n : Nat}, read { c with clauses := n } = .fail why after → c.Fails why after)
    (h : counted t.span c read = .fail why after) : c.Fails why after := by
  unfold counted at h
  simp only at h
  split at h
  · cases h
    have hspan : t.span = nextSpan { c with clauses := c.clauses + 1 } := by simp [nextSpan, hc]
    rw [hspan]
    exact .of_clauses (.here (by simp) (by simp))
  · exact hread h

section

variable (hop : ∀ {c why after}, clause levels c = .fail why after → c.Fails why after)
include hop

theorem conjunctionFrom_fails (h : conjunctionFrom (clause levels) left c = .fail why after) :
    c.Fails why after := by
  induction hlen : c.rest.length using Nat.strongRecOn generalizing left c with
  | ind k ih =>
    subst hlen
    -- Behind an operand that is read, from `c` or after a keyword, a further one fails.
    have hnext : ∀ {c' right mid}, clause levels c' = .ok right mid →
        (if _h : mid.rest.length < c.rest.length then
          conjunctionFrom (clause levels) (.and left right) mid else .ok (.and left right) mid)
            = .fail why after → c'.Fails why after := by
      intro c' right mid hmid h
      split at h
      · next hlt =>
        obtain ⟨ts, n, -, ht, -⟩ := (clause_reads hmid).spelled
        exact .of_takes ht (ih _ hlt h rfl)
      · cases h
    rw [conjunctionFrom] at h
    split at h
    · next spelling span rest hrest =>
      split at h
      · cases h
        exact .behind hrest (by simp)
      · simp only at h
        split at h
        · next hfail =>
          cases h
          exact .cons hrest (hop hfail)
        · next hmid => exact .cons hrest (hnext hmid h)
    · split at h
      · simp only at h
        split at h
        · next hfail =>
          cases h
          exact hop hfail
        · next hmid => exact hnext hmid h
      · cases h
    · cases h

theorem conjunction_fails (h : conjunction (clause levels) c = .fail why after) :
    c.Fails why after := by
  unfold conjunction at h
  split at h
  · next hfail =>
    cases h
    exact hop hfail
  · next left mid hmid =>
    obtain ⟨ts, n, -, ht, -⟩ := (clause_reads hmid).spelled
    exact .of_takes ht (conjunctionFrom_fails hop h)

theorem disjunctionFrom_fails (h : disjunctionFrom (clause levels) left c = .fail why after) :
    c.Fails why after := by
  fun_induction disjunctionFrom (clause levels) left c with
  | case1 left c spelling span rest hrest =>
    cases h
    exact .behind hrest (by simp)
  | case2 left c spelling span rest hrest _ _ _ hfail =>
    cases h
    exact .cons hrest (conjunction_fails hop hfail)
  | case3 left c spelling span rest hrest _ right mid hmid _ ih =>
    obtain ⟨ts, n, -, ht, -⟩ := (conjunction_reads clause_reads hmid).spelled
    exact .cons hrest (.of_takes ht (ih h))
  | case4 => cases h
  | case5 => cases h

theorem disjunction_fails (h : disjunction (clause levels) c = .fail why after) :
    c.Fails why after := by
  unfold disjunction at h
  split at h
  · next hfail =>
    cases h
    exact conjunction_fails hop hfail
  · next left mid hmid =>
    obtain ⟨ts, n, -, ht, -⟩ := (conjunction_reads clause_reads hmid).spelled
    exact .of_takes ht (disjunctionFrom_fails hop h)

end

/-- Where what is nested is missing or read one level less deep. -/
theorem clauseWith_fails {inner : Option (Cursor → Outcome Query)}
    (hinner : ∀ operand ∈ inner, ∃ less, operand = clause less ∧
      ∀ {c why after}, clause less c = .fail why after → c.Fails why after)
    (h : clauseWith inner c = .fail why after) : c.Fails why after := by
  unfold clauseWith at h
  split at h
  · next spelling span rest hrest =>
    split at h
    · cases h
      exact .behind hrest (by simp)
    · split at h
      · cases h
        exact .behind hrest (by simp)
      · next operand =>
        obtain ⟨less, rfl, hop⟩ := hinner operand rfl
        cases hinside : clause less { c with rest } with
        | ok body mid => rw [hinside] at h; cases h
        | fail why' after' =>
          rw [hinside] at h
          cases h
          exact .cons hrest (hop hinside)
  · next span rest hrest =>
    simp only at h
    split at h
    · cases h
      exact .cons hrest (.here (by simp) (by simp))
    · next operand =>
      obtain ⟨less, rfl, hop⟩ := hinner operand rfl
      split at h
      · next hfail =>
        cases h
        exact .cons hrest (disjunction_fails hop hfail)
      · next body mid hmid =>
        split at h
        · cases h
        · cases h
          obtain ⟨ts, n, -, ht, -⟩ := (disjunction_reads clause_reads hmid).spelled
          exact .cons hrest (.of_takes ht (.here (by simp) (by simp)))
  · next name span rest hrest =>
    refine counted_fails hrest (fun {n} hread => ?_) h
    exact .of_clauses (n := n) (fieldClause_fails hrest hread)
  · next t rest _ _ _ hrest =>
    split at h
    · refine counted_fails hrest (fun hread => ?_) h
      cases hread
    · cases h
      exact ⟨⟨[], rfl, .unexpected hrest⟩, rfl⟩
  · cases h
    exact .here (by simp) (by simp)

/-- What is read as a clause fails where it should. -/
theorem clause_fails (h : clause levels c = .fail why after) : c.Fails why after := by
  induction levels generalizing c why after with
  | zero => exact clauseWith_fails (by simp) h
  | succ levels ih =>
    refine clauseWith_fails (fun operand hoperand => ⟨levels, ?_, ih⟩) h
    exact (Option.some.inj hoperand).symm

/-- An expression that fails has taken the tokens up to where it stops; its fault shows there. -/
theorem expression_fails (h : expression c = .fail why after) : c.Fails why after :=
  disjunction_fails clause_fails h

end Parser

end NetQuery
