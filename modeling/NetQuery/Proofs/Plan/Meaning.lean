import NetQuery.Plan.Predicate

namespace NetQuery

section Except

variable {ε ε' α β : Type}

theorem exists_ok_of_bind {x : Except ε α} {f : α → Except ε β} {b : β}
    (h : x >>= f = .ok b) : ∃ a, x = .ok a ∧ f a = .ok b := by
  cases x with
  | error e => cases h
  | ok a => exact ⟨a, rfl, h⟩

/-- A result that was mapped stems from one under another kind of error. -/
theorem exists_ok_of_map {x : Except ε α} {g : ε → ε'} {f : α → β} {b : β}
    (h : (x.mapError g).map f = .ok b) : ∃ a, x = .ok a ∧ f a = b := by
  cases x with
  | error e => cases h
  | ok a => exact ⟨a, rfl, Except.ok.inj h⟩

end Except

namespace Predicate

variable {p : Predicate} {accepted : Bool} {name : String}

/-- The predicate tests the value of one field; `accepted` is its answer to records without it. -/
def Reads (p : Predicate) (name : String) (accepted : Bool) : Prop :=
  ∃ test : Json → Bool, ∀ r, p r = ((r.get? name).any test != accepted)

theorem Reads.congr (h : p.Reads name accepted) {r r' : Record} (hr : r.get? name = r'.get? name) :
    p r = p r' := by
  obtain ⟨test, htest⟩ := h
  rw [htest, htest, hr]

theorem Reads.of_missing (h : p.Reads name accepted) {r : Record} (hr : r.get? name = none) :
    p r = accepted := by
  obtain ⟨test, htest⟩ := h
  rw [htest, hr, Option.any_none, Bool.false_bne]

theorem reads_of_always : Reads (fun _ => true) name true :=
  ⟨fun _ => false, fun r => by cases r.get? name <;> rfl⟩

theorem reads_of_value (name : String) (test : Json → Bool) :
    Reads (fun r => (r.get? name).any test) name false :=
  ⟨test, fun _ => (Bool.bne_false _).symm⟩

theorem reads_of_bind {α : Type} (name : String) (part : Json → Option α) (test : α → Bool) :
    Reads (fun r => ((r.get? name).bind part).any test) name false :=
  ⟨fun v => (part v).any test, fun _ => Option.any_bind.trans (Bool.bne_false _).symm⟩

theorem Reads.signed (h : p.Reads name false) (relation : Option Relation) :
    (signed relation p).Reads name (relation == some .ne) := by
  obtain ⟨test, htest⟩ := h
  refine ⟨test, ?_⟩
  intro r
  by_cases hne : relation = some .ne
  · rw [Predicate.signed, if_pos hne, hne, htest, Bool.bne_false]
    exact (Bool.bne_true _).symm
  · rw [Predicate.signed, if_neg hne, htest, beq_eq_false_iff_ne.mpr hne]

end Predicate

namespace Query

open Predicate

variable {setting : Setting} {q left right operand : Query} {p : Predicate} {name : String}

/-- The answer of a query to records that have none of its fields. -/
def answerOnMissing : Query → Bool
  | field name _ relation => name == matchAllName || relation == some .ne
  | wildcard .. | range .. | comparison .. => false
  | group body => body.answerOnMissing
  | and left right => left.answerOnMissing && right.answerOnMissing
  | or left right => left.answerOnMissing || right.answerOnMissing
  | not operand => !operand.answerOnMissing

variable [Regex.Library]

theorem reads_of_field {value : Literal} {relation : Option Relation}
    (h : (field name value relation).predicate setting = .ok p) :
    p.Reads name (field name value relation).answerOnMissing := by
  simp only [predicate, fieldPredicate] at h
  rw [answerOnMissing]
  by_cases hstar : (name == matchAllName) = true
  · rw [if_pos hstar] at h
    cases h
    rw [hstar]
    exact reads_of_always
  · rw [if_neg hstar] at h
    rw [Bool.eq_false_iff.mpr hstar, Bool.false_or]
    split at h
    · rename_i happrox
      cases h
      rw [happrox]
      exact reads_of_bind ..
    · split at h
      · cases h
        exact (reads_of_bind ..).signed relation
      · obtain ⟨t, -, rfl⟩ := exists_ok_of_map h
        exact (reads_of_bind ..).signed relation
      · cases h
        exact (reads_of_value ..).signed relation

/-- Each clause reads its own field, and no other part of a record. -/
theorem reads_of_clause (hname : q.fieldName? = some name) (h : q.predicate setting = .ok p) :
    p.Reads name q.answerOnMissing := by
  cases q with
  | field =>
    cases hname
    exact reads_of_field h
  | wildcard =>
    cases hname
    simp only [predicate, wildcardPredicate] at h
    split at h
    · cases h
      exact reads_of_bind ..
    · split at h
      · cases h
        exact reads_of_bind ..
      · cases h
  | range =>
    cases hname
    simp only [predicate] at h
    split at h
    · obtain ⟨w, -, rfl⟩ := exists_ok_of_map h
      exact reads_of_bind ..
    · cases h
      exact reads_of_value ..
  | comparison =>
    cases hname
    simp only [predicate] at h
    split at h
    · obtain ⟨t, -, rfl⟩ := exists_ok_of_map h
      exact reads_of_bind ..
    · cases h
      exact reads_of_bind ..
  | group | and | or | not => cases hname

theorem predicate_of_and (h : (and left right).predicate setting = .ok p) :
    ∃ pl pr, left.predicate setting = .ok pl ∧ right.predicate setting = .ok pr ∧
      p = fun r => pl r && pr r := by
  obtain ⟨pl, hl, h⟩ := exists_ok_of_bind h
  obtain ⟨pr, hr, h⟩ := exists_ok_of_bind h
  exact ⟨pl, pr, hl, hr, (Except.ok.inj h).symm⟩

theorem predicate_of_or (h : (or left right).predicate setting = .ok p) :
    ∃ pl pr, left.predicate setting = .ok pl ∧ right.predicate setting = .ok pr ∧
      p = fun r => pl r || pr r := by
  obtain ⟨pl, hl, h⟩ := exists_ok_of_bind h
  obtain ⟨pr, hr, h⟩ := exists_ok_of_bind h
  exact ⟨pl, pr, hl, hr, (Except.ok.inj h).symm⟩

theorem predicate_of_not (h : (not operand).predicate setting = .ok p) :
    ∃ po, operand.predicate setting = .ok po ∧ p = fun r => !po r := by
  obtain ⟨po, ho, h⟩ := exists_ok_of_bind h
  exact ⟨po, ho, (Except.ok.inj h).symm⟩

end Query

end NetQuery
