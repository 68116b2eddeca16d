import NetQuery.Proofs.Query.Height
import NetQuery.Proofs.Query.Printing
import NetQuery.Proofs.Query.Rounds

namespace NetQuery

open NetQuery.Parser NetQuery.Grammar

/-- The reading comes to the same, unless it is given up as too deep. -/
def Outcome.SameOrTooDeep (o o' : Outcome Query) : Prop :=
  o = o' ∨ ∃ span after, o = .fail ⟨.tooDeep, span⟩ after

namespace Outcome.SameOrTooDeep

theorem refl (o : Outcome Query) : o.SameOrTooDeep o :=
  .inl rfl

theorem bind {o o' : Outcome Query} {k k' : Query → Cursor → Outcome Query} :
    o.SameOrTooDeep o' → (∀ q after, (k q after).SameOrTooDeep (k' q after)) →
    SameOrTooDeep (match o with | .fail why after => .fail why after | .ok q after => k q after)
      (match o' with | .fail why after => .fail why after | .ok q after => k' q after) := by
  intro h hk
  rcases h with rfl | ⟨span, after, rfl⟩
  · cases o with
    | fail why after => exact .refl _
    | ok q after => exact hk q after
  · exact .inr ⟨span, after, rfl⟩

theorem map {o o' : Outcome Query} (h : o.SameOrTooDeep o') (f : Query → Query) :
    (o.map f).SameOrTooDeep (o'.map f) := by
  rcases h with rfl | ⟨span, after, rfl⟩
  · exact .refl _
  · exact .inr ⟨span, after, rfl⟩

end Outcome.SameOrTooDeep

namespace Parser

section

variable {operand operand' : Cursor → Outcome Query}
  (h : ∀ c, (operand c).SameOrTooDeep (operand' c))
include h

theorem conjunctionFrom_sameOrTooDeep (left : Query) (c : Cursor) :
    (conjunctionFrom operand left c).SameOrTooDeep (conjunctionFrom operand' left c) := by
  induction hlen : c.rest.length using Nat.strongRecOn generalizing left c with
  | ind k ih =>
    subst hlen
    unfold conjunctionFrom
    have hmore : ∀ right after,
        (if _h : after.rest.length < c.rest.length then
          conjunctionFrom operand (.and left right) after else .ok (.and left right) after :
            Outcome Query).SameOrTooDeep
        (if _h : after.rest.length < c.rest.length then
          conjunctionFrom operand' (.and left right) after else .ok (.and left right) after) := by
      intro right after
      split
      · next hlt => exact ih _ hlt _ _ rfl
      · exact .refl _
    split
    · next rest _ =>
      split
      · exact .refl _
      · exact .bind (h _) hmore
    · split
      · exact .bind (h c) hmore
      · exact .refl _
    · exact .refl _

theorem conjunction_sameOrTooDeep (c : Cursor) :
    (conjunction operand c).SameOrTooDeep (conjunction operand' c) := by
  unfold conjunction
  exact .bind (h c) (conjunctionFrom_sameOrTooDeep h)

theorem disjunctionFrom_sameOrTooDeep (left : Query) (c : Cursor) :
    (disjunctionFrom operand left c).SameOrTooDeep (disjunctionFrom operand' left c) := by
  induction hlen : c.rest.length using Nat.strongRecOn generalizing left c with
  | ind k ih =>
    subst hlen
    unfold disjunctionFrom
    split
    · split
      · exact .refl _
      · refine .bind (conjunction_sameOrTooDeep h _) fun right after => ?_
        split
        · next hlt => exact ih _ hlt _ _ rfl
        · exact .refl _
    · exact .refl _

theorem disjunction_sameOrTooDeep (c : Cursor) :
    (disjunction operand c).SameOrTooDeep (disjunction operand' c) := by
  unfold disjunction
  exact .bind (conjunction_sameOrTooDeep h c) (disjunctionFrom_sameOrTooDeep h)

end

/-- Where nothing may nest, a negation or a group is too deep. -/
theorem clauseWith_sameOrTooDeep {inner inner' : Option (Cursor → Outcome Query)}
    (hinner : ∀ operand ∈ inner, ∃ operand' ∈ inner',
      ∀ c, (operand c).SameOrTooDeep (operand' c)) (c : Cursor) :
    (clauseWith inner c).SameOrTooDeep (clauseWith inner' c) := by
  unfold clauseWith
  split
  · split
    · exact .refl _
    · cases inner with
      | none => exact .inr ⟨_, _, rfl⟩
      | some operand =>
        obtain ⟨operand', rfl, hoperand⟩ := hinner operand rfl
        exact (hoperand _).map .not
  · cases inner with
    | none => exact .inr ⟨_, _, rfl⟩
    | some operand =>
      obtain ⟨operand', rfl, hoperand⟩ := hinner operand rfl
      exact .bind (disjunction_sameOrTooDeep hoperand _) fun _ _ => .refl _
  · exact .refl _
  · exact .refl _
  · exact .refl _

theorem clause_sameOrTooDeep {levels more : Nat} (hle : levels ≤ more) (c : Cursor) :
    (clause levels c).SameOrTooDeep (clause more c) := by
  induction levels generalizing more c with
  | zero =>
    obtain ⟨inner, hinner⟩ := exists_clauseWith more
    rw [hinner]
    exact clauseWith_sameOrTooDeep (by simp) c
  | succ levels ih =>
    obtain ⟨more, rfl⟩ : ∃ k, more = k + 1 := ⟨more - 1, by omega⟩
    refine clauseWith_sameOrTooDeep (fun operand hoperand => ⟨clause more, rfl, ?_⟩) c
    cases hoperand
    exact ih (Nat.le_of_succ_le_succ hle)

variable {tokens : Tokens} {q : Query}

/-- A text that spells a query which nests too deep is given up for it. -/
theorem expression_tooDeep (hd : Derives .expression (tokens.items.map Token.symbol) q)
    (hclauses : q.leaves.length ≤ maxClauses) (hdeep : maxDepth ≤ q.nesting) :
    ∃ span after, expression tokens.start = .fail ⟨.tooDeep, span⟩ after := by
  obtain ⟨after, hread, -⟩ := disjunction_of_derives hd hclauses (Nat.le_refl _)
  have hlevels : maxDepth - 1 ≤ q.nesting := Nat.le_trans (Nat.sub_le ..) hdeep
  rcases disjunction_sameOrTooDeep (clause_sameOrTooDeep hlevels) tokens.start with heq | hfail
  · have hnesting := (expression_reads (heq.trans hread)).nesting
    simp only [maxDepth] at hnesting hdeep
    omega
  · exact hfail

end Parser

namespace Query

def nests : Query → Bool
  | group _ | not _ => true
  | _ => false

variable {q : Query} {path : List Query} {tokens : Tokens}

theorem nesting_child {child : Query} (h : child ∈ q.children) :
    child.nesting + q.nests.toNat ≤ q.nesting := by
  cases q with
  | group body | not body =>
    obtain rfl := List.mem_singleton.mp h
    exact Nat.le_refl _
  | and left right | or left right =>
    rcases List.mem_cons.mp h with rfl | h
    · exact Nat.le_max_left ..
    · obtain rfl := List.mem_singleton.mp h
      exact Nat.le_max_right ..
  | _ => cases h

theorem Path.countP_le (h : q.Path path) : path.countP nests ≤ q.nesting := by
  induction h with
  | root q => cases q <;> simp [nests, nesting]
  | @down q child path hchild _ ih =>
    have hle := nesting_child hchild
    rw [List.countP_cons]
    cases hq : q.nests <;> simp [hq] at hle ⊢ <;> omega

/-- Some path has as many groups and negations as the nesting tells. -/
theorem exists_path_countP (q : Query) : ∃ path, q.Path path ∧ path.countP nests = q.nesting := by
  induction q with
  | group body ih | not body ih =>
    obtain ⟨path, hpath, hcount⟩ := ih
    refine ⟨_, .down (by simp [children]) hpath, ?_⟩
    simp [List.countP_cons, nests, nesting, hcount]
  | and left right ihl ihr | or left right ihl ihr =>
    rcases Nat.le_total left.nesting right.nesting with hle | hle
    · obtain ⟨path, hpath, hcount⟩ := ihr
      refine ⟨_, .down (by simp [children]) hpath, ?_⟩
      simp [nests, nesting, hcount, hle]
    · obtain ⟨path, hpath, hcount⟩ := ihl
      refine ⟨_, .down (by simp [children]) hpath, ?_⟩
      simp [nests, nesting, hcount, hle]
  | _ => exact ⟨_, .root _, rfl⟩

/-- The first fault is the one with which the first expression fails. -/
theorem ofTokens_of_fail {why : Diagnostic} {after : Cursor} (hitems : tokens.items ≠ [])
    (h : expression tokens.start = .fail why after) :
    ∃ ds, ofTokens tokens = .error (why :: ds) := by
  obtain ⟨more, hreports⟩ : ∃ more, reports tokens.start = why :: more := by
    rw [reports, rounds_eq_cons hitems, List.flatMap_cons]
    by_cases hmany : why.fault = .tooManyClauses
    · exact ⟨_, by rw [(round_of_many h hmany).1]; rfl⟩
    · exact ⟨_, by rw [(round_of_fail h hmany).1]; rfl⟩
  have hread : ofTokens tokens = .error (reports tokens.start) := by
    apply ofTokens_of_reports
    rw [hreports]
    exact List.cons_ne_nil why more
  exact ⟨more, by rw [hread, hreports]⟩

theorem ofTokens_tooDeep (hd : Derives .expression (tokens.items.map Token.symbol) q)
    (hclauses : q.leaves.length ≤ maxClauses) (hdeep : maxDepth ≤ q.nesting) :
    ∃ d ds, ofTokens tokens = .error (d :: ds) ∧ d.fault = .tooDeep := by
  obtain ⟨span, after, hfail⟩ := expression_tooDeep hd hclauses hdeep
  have hitems : tokens.items ≠ [] := by
    have := hd.ne_nil rfl
    simpa using this
  obtain ⟨ds, hds⟩ := ofTokens_of_fail hitems hfail
  exact ⟨_, ds, hds, rfl⟩

/-- Tokens that spell a query with no more clauses than allowed are read as it when no path down its
tree has as many groups and negations as the limit tells; otherwise the first error is that it nests
too deep. -/
theorem ofTokens_reads_or_tooDeep (hd : Derives .expression (tokens.items.map Token.symbol) q)
    (hclauses : q.leaves.length ≤ maxClauses) :
    (∀ path, q.Path path → path.countP nests < maxDepth) ∧ ofTokens tokens = .ok q ∨
      (∃ path, q.Path path ∧ maxDepth ≤ path.countP nests) ∧
        ∃ d ds, ofTokens tokens = .error (d :: ds) ∧ d.message = Fault.tooDeep.message := by
  rcases Nat.lt_or_ge q.nesting maxDepth with hlt | hdeep
  · left
    refine ⟨fun path hpath => Nat.lt_of_le_of_lt hpath.countP_le hlt, ?_⟩
    exact ofTokens_eq_ok_iff_derives.mpr ⟨hd, hclauses, by omega⟩
  · right
    obtain ⟨path, hpath, hcount⟩ := exists_path_countP q
    obtain ⟨d, ds, hds, hfault⟩ := ofTokens_tooDeep hd hclauses hdeep
    refine ⟨⟨path, hpath, by omega⟩, d, ds, hds, ?_⟩
    rw [Diagnostic.message, hfault]

theorem leaves_groups (n : Nat) (q : Query) : (group^[n] q).leaves = q.leaves := by
  induction n with
  | zero => rfl
  | succ n ih =>
    rw [Function.iterate_succ_apply']
    exact ih

theorem nesting_groups (n : Nat) (q : Query) : (group^[n] q).nesting = q.nesting + n := by
  induction n with
  | zero => rfl
  | succ n ih =>
    rw [Function.iterate_succ_apply']
    exact congrArg (· + 1) ih

end Query

theorem Grammar.Derives.groups {ts : List Symbol} {q : Query} (h : Derives .primary ts q)
    (n : Nat) :
    Derives .primary (List.replicate n .openParen ++ (ts ++ List.replicate n .closeParen))
      (Query.group^[n] q) := by
  induction n with
  | zero => simpa using h
  | succ n ih =>
    have hgroup := Derives.group ih.primary.conjunction_of_negation.expression_of_conjunction
    rw [Function.iterate_succ_apply', List.replicate_succ, List.replicate_succ']
    simpa using hgroup

/-- The tokens of a clause in `n` groups. -/
def Tokens.inGroups (n : Nat) : Tokens :=
  ⟨(List.range n).map (fun i => ⟨.openParen, ⟨i, i + 1⟩⟩) ++
    ([⟨.field "a", ⟨n, n + 1⟩⟩, ⟨.colon, ⟨n + 1, n + 2⟩⟩, ⟨.value "1", ⟨n + 2, n + 3⟩⟩] ++
      (List.range n).map fun i => ⟨.closeParen, ⟨n + 3 + i, n + 4 + i⟩⟩), 2 * n + 3⟩

def Query.innermost : Query :=
  field "a" (.ofWord "1") none

theorem Tokens.derives_inGroups (n : Nat) :
    Derives .expression ((inGroups n).items.map Token.symbol)
      (Query.group^[n] Query.innermost) := by
  have hclause : Derives .primary [.field "a", .colon, .value "1"] Query.innermost :=
    .field (.value (.word "1") (by simp))
  have hgroups := (hclause.groups n).primary.conjunction_of_negation.expression_of_conjunction
  simpa [inGroups, Function.comp_def, List.map_const'] using hgroups

theorem Query.ofTokens_reads_or_tooDeep_of_groups :
    ofTokens (.inGroups 63) = .ok (group^[63] innermost) ∧
      ∃ d ds, ofTokens (.inGroups 64) = .error (d :: ds) ∧ d.message = Fault.tooDeep.message := by
  have hclauses : ∀ n, (group^[n] innermost).leaves.length ≤ maxClauses := by
    intro n
    rw [leaves_groups]
    decide
  constructor
  · rcases ofTokens_reads_or_tooDeep (Tokens.derives_inGroups 63) (hclauses 63) with
      ⟨-, hread⟩ | ⟨⟨path, hpath, hdeep⟩, -⟩
    · exact hread
    · have hle := hpath.countP_le
      rw [nesting_groups] at hle
      simp only [innermost, nesting, maxDepth] at hle hdeep
      omega
  · rcases ofTokens_reads_or_tooDeep (Tokens.derives_inGroups 64) (hclauses 64) with
      ⟨hshallow, -⟩ | ⟨-, hdeep⟩
    · obtain ⟨path, hpath, hcount⟩ := exists_path_countP (group^[64] innermost)
      have hlt := hshallow path hpath
      rw [hcount, nesting_groups] at hlt
      simp only [innermost, nesting, maxDepth] at hlt
      omega
    · exact hdeep

/-- As many groups as the limit tells are too deep already. -/
theorem Query.groups_up_to_limit_tooDeep :
    let text := String.ofList
      (List.replicate maxDepth '(' ++ "a:1".toList ++ List.replicate maxDepth ')')
    let q := group^[maxDepth] innermost
    ∃ tokens, tokenize text = .ok tokens ∧ Derives .expression (tokens.items.map Token.symbol) q ∧
      q.leaves.length ≤ maxClauses ∧ (∀ path, q.Path path → path.countP nests ≤ maxDepth) ∧
      ∃ ds, ofTokens tokens = .error ds ∧ ∃ d ∈ ds, d.message = Fault.tooDeep.message := by
  intro text q
  have hclauses : q.leaves.length ≤ maxClauses := by
    rw [leaves_groups]
    decide
  have hnesting : q.nesting = maxDepth := nesting_groups maxDepth innermost
  have hd := Tokens.derives_inGroups maxDepth
  obtain ⟨d, ds, hds, hfault⟩ := ofTokens_tooDeep hd hclauses (Nat.le_of_eq hnesting.symm)
  refine ⟨.inGroups maxDepth, by decide +kernel, hd, hclauses, fun path hpath => ?_, _, hds, d,
    List.mem_cons_self, congrArg Fault.message hfault⟩
  rw [← hnesting]
  exact hpath.countP_le

end NetQuery
