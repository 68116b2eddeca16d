import Mathlib.Logic.Function.Iterate
import NetQuery.Library
import NetQuery.Plan.Predicate
import NetQuery.Proofs.Query.Acceptance

namespace NetQuery

namespace Query

def children : Query → List Query
  | group body => [body]
  | and left right | or left right => [left, right]
  | not operand => [operand]
  | _ => []

def height : Query → Nat
  | group body => body.height + 1
  | and left right | or left right => max left.height right.height + 1
  | not operand => operand.height + 1
  | _ => 1

/-- The nodes lead from the query down its tree, each to one of its children. -/
inductive Path : Query → List Query → Prop where
  | root (q : Query) : Path q [q]
  | down {q child : Query} {path : List Query} :
      child ∈ q.children → Path child path → Path q (q :: path)

variable {q child : Query} {path : List Query}

theorem height_child (h : child ∈ q.children) : child.height + 1 ≤ q.height := by
  cases q with
  | group body | not body =>
    obtain rfl := List.mem_singleton.mp h
    exact Nat.le_refl _
  | and left right | or left right =>
    rcases List.mem_cons.mp h with rfl | h
    · exact Nat.succ_le_succ (Nat.le_max_left ..)
    · obtain rfl := List.mem_singleton.mp h
      exact Nat.succ_le_succ (Nat.le_max_right ..)
  | _ => cases h

theorem height_pos (q : Query) : 0 < q.height := by
  cases q <;> exact Nat.succ_pos _

theorem Path.length_le (h : Path q path) : path.length ≤ q.height := by
  induction h with
  | root q => exact q.height_pos
  | down hchild _ ih => exact Nat.le_trans (Nat.succ_le_succ ih) (height_child hchild)

theorem leaves_length_pos (q : Query) : 0 < q.leaves.length := by
  induction q with
  | group _ ih | not _ ih => exact ih
  | and _ _ ihl _ | or _ _ ihl _ =>
    rw [leaves, List.length_append]
    exact Nat.add_pos_left ihl _
  | _ => exact Nat.one_pos

/-- A connective makes the tree higher by one and joins the clauses of both sides, of which each has
one at least; a group or a negation nests deeper by one. -/
theorem height_le (q : Query) : q.height ≤ q.leaves.length + q.nesting := by
  induction q with
  | group body ih | not body ih =>
    simp only [height, leaves, nesting]
    omega
  | and left right ihl ihr | or left right ihl ihr =>
    have := left.leaves_length_pos
    have := right.leaves_length_pos
    simp only [height, leaves, nesting, List.length_append]
    omega
  | _ => exact Nat.le_refl _

end Query

/-- One step of a walk over queries: what it makes of a node, given what it makes of other nodes, of
which it asks for the children only. -/
structure Walk (α : Type) where
  step : (Query → α) → Query → α
  asks : ∀ {f g : Query → α} {q : Query}, (∀ child ∈ q.children, f child = g child) →
    step f q = step g q

namespace Walk

variable {α : Type} {q : Query}

/-- What the walk makes of a query when it calls itself at most so many levels deep and takes `base`
for the answer below. -/
def upTo (w : Walk α) (levels : Nat) (base : Query → α) : Query → α :=
  w.step^[levels] base

/-- A walk is done after as many levels as the tree is high, and so does not look at `base`. -/
theorem upTo_eq (w : Walk α) {levels : Nat} (h : q.height ≤ levels) (f g : Query → α) :
    w.upTo levels f q = w.upTo levels g q := by
  induction levels generalizing q with
  | zero => exact absurd q.height_pos (Nat.not_lt.mpr h)
  | succ levels ih =>
    rw [upTo, upTo, Function.iterate_succ_apply', Function.iterate_succ_apply']
    apply w.asks
    intro child hchild
    have := Query.height_child hchild
    exact ih (by omega)

/-- A function that is defined by the walk is what the walk comes to. -/
theorem upTo_eq_of_step (w : Walk α) {levels : Nat} {f : Query → α} (hf : w.step f = f)
    (h : q.height ≤ levels) (base : Query → α) : w.upTo levels base q = f q := by
  have hfixed : w.upTo levels f = f := Function.iterate_fixed hf levels
  rw [w.upTo_eq h base f, hfixed]

end Walk

namespace Query

variable {setting : Setting} {q : Query}

def predicateWalk [Regex.Library] (setting : Setting) : Walk (Except ClauseError Predicate) where
  step part
    | group body => part body
    | and left right => do
      let p ← part left
      let q ← part right
      .ok fun r => p r && q r
    | or left right => do
      let p ← part left
      let q ← part right
      .ok fun r => p r || q r
    | not operand => do
      let p ← part operand
      .ok fun r => !p r
    | leaf => leaf.predicate setting
  asks {f g q} h := by
    cases q with
    | group body => exact h body (by simp [children])
    | and left right | or left right =>
      simp only [h left (by simp [children]), h right (by simp [children])]
    | not operand => simp only [h operand (by simp [children])]
    | _ => rfl

theorem step_predicate [Regex.Library] :
    (predicateWalk setting).step (predicate setting) = predicate setting := by
  funext q
  cases q <;> rfl

end Query

/-- The query of a valid text, with or without an entity, has no more clauses than allowed, and no
path down its tree has more nodes than clauses and levels are allowed. So every walk over it is done
within as many levels of calls, the one that makes its predicate among them. -/
theorem Verdict.query_is_bounded [Regex.Library] {text : String} {entity : Option Entity}
    (h : (ofText text entity).isValid = true) :
    ∃ q, (ofText text entity).query = some q ∧ q.leaves.length ≤ maxClauses ∧
      (∀ path, q.Path path → path.length ≤ maxClauses + maxDepth) ∧
      (∀ (α : Type) (w : Walk α) (f base : Query → α), w.step f = f →
        w.upTo (maxClauses + maxDepth) base q = f q) ∧
      ∀ setting base, (Query.predicateWalk setting).upTo (maxClauses + maxDepth) base q =
        q.predicate setting := by
  obtain ⟨q, hq⟩ := isValid_iff.mp h
  obtain ⟨-, -, -, hclauses, hnesting, -⟩ := query_eq_some_iff.mp hq
  have hheight : q.height ≤ maxClauses + maxDepth :=
    calc q.height ≤ q.leaves.length + q.nesting := q.height_le
      _ ≤ maxClauses + maxDepth := by omega
  refine ⟨q, hq, hclauses, fun path hpath => ?_, fun α w f base hf => ?_, fun setting base => ?_⟩
  · exact Nat.le_trans hpath.length_le hheight
  · exact w.upTo_eq_of_step hf hheight base
  · exact (Query.predicateWalk setting).upTo_eq_of_step Query.step_predicate hheight base

theorem Verdict.query_is_bounded_of_negated_group :
    let v := ofText "severity:high OR NOT (type:1 status:2)" (some .alarms)
    v.isValid = true ∧ ∃ q, v.query = some q ∧ q.leaves.length ≤ maxClauses ∧
      ∀ path, q.Path path → path.length ≤ maxClauses + maxDepth := by
  intro v
  have h : v.isValid = true := by decide +kernel
  obtain ⟨q, hq, hclauses, hpaths, -⟩ := query_is_bounded h
  exact ⟨h, q, hq, hclauses, hpaths⟩

end NetQuery
