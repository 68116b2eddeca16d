import Mathlib.Data.List.Forall2
import NetQuery.Plan.Predicate
import NetQuery.Proofs.Query.Reading

namespace NetQuery.Query

/-- What the query says of a record, or why it says nothing. -/
def answer [Regex.Library] (setting : Setting) (q : Query) (r : Record) : Except ClauseError Bool :=
  (q.predicate setting).map (· r)

/-- Two queries of one shape, with related clauses. -/
inductive Alike (R : Query → Query → Prop) : Query → Query → Prop where
  | leaf {q q' : Query} : q.isLeaf = true → q'.isLeaf = true → R q q' → Alike R q q'
  | group {q q' : Query} : Alike R q q' → Alike R (.group q) (.group q')
  | and {left left' right right' : Query} :
      Alike R left left' → Alike R right right' → Alike R (.and left right) (.and left' right')
  | or {left left' right right' : Query} :
      Alike R left left' → Alike R right right' → Alike R (.or left right) (.or left' right')
  | not {q q' : Query} : Alike R q q' → Alike R (.not q) (.not q')

variable {R : Query → Query → Prop} {q q' left right : Query} {setting : Setting} {r : Record}

theorem Alike.leaves (h : Alike R q q') : List.Forall₂ R q.leaves q'.leaves := by
  induction h with
  | leaf hq hq' hR =>
    rw [leaves_of_isLeaf hq, leaves_of_isLeaf hq']
    exact .cons hR .nil
  | group _ ih | not _ ih => exact ih
  | and _ _ ihl ihr | or _ _ ihl ihr => exact List.rel_append ihl ihr

theorem Alike.nesting (h : Alike R q q') : q.nesting = q'.nesting := by
  induction h with
  | leaf hq hq' _ => rw [nesting_of_isLeaf hq, nesting_of_isLeaf hq']
  | group _ ih | not _ ih => simp only [Query.nesting, ih]
  | and _ _ ihl ihr | or _ _ ihl ihr => simp only [Query.nesting, ihl, ihr]

variable [Regex.Library]

@[simp] theorem answer_group : (group q).answer setting r = q.answer setting r := rfl

@[simp] theorem answer_and : (and left right).answer setting r = (do
    let a ← left.answer setting r
    let b ← right.answer setting r
    .ok (a && b)) := by
  unfold answer
  rw [predicate]
  cases left.predicate setting <;> cases right.predicate setting <;> rfl

@[simp] theorem answer_or : (or left right).answer setting r = (do
    let a ← left.answer setting r
    let b ← right.answer setting r
    .ok (a || b)) := by
  unfold answer
  rw [predicate]
  cases left.predicate setting <;> cases right.predicate setting <;> rfl

@[simp] theorem answer_not : (not q).answer setting r = (do
    let a ← q.answer setting r
    .ok !a) := by
  unfold answer
  rw [predicate]
  cases q.predicate setting <;> rfl

/-- Queries answer alike where their clauses do. -/
theorem Alike.answer (hR : ∀ leaf leaf', R leaf leaf' →
      leaf.answer setting r = leaf'.answer setting r) (h : Alike R q q') :
    q.answer setting r = q'.answer setting r := by
  induction h with
  | leaf _ _ h => exact hR _ _ h
  | group _ ih => simpa using ih
  | and _ _ ihl ihr => rw [answer_and, answer_and, ihl, ihr]
  | or _ _ ihl ihr => rw [answer_or, answer_or, ihl, ihr]
  | not _ ih => rw [answer_not, answer_not, ih]

end NetQuery.Query
