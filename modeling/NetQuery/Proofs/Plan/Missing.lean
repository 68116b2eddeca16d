import NetQuery.Library
import NetQuery.Proofs.Plan.Tagging

namespace NetQuery

/-- The record has no value in the field. -/
inductive Record.Lacks (r : Record) (name : String) : Prop
  | undeclared (h : r.entity.field? name = none)
  | absent {spec : FieldSpec} (h : r.entity.field? name = some spec)
      (hdata : r.data.at? spec.path = none)
  | null {spec : FieldSpec} (h : r.entity.field? name = some spec)
      (hdata : r.data.at? spec.path = some .null)

/-- A field that is undeclared, absent or null reads as none, and no other field does. -/
theorem Record.get?_eq_none_iff {r : Record} {name : String} :
    r.get? name = none ↔ r.Lacks name := by
  constructor
  · intro hget
    cases hspec : r.entity.field? name with
    | none => exact .undeclared hspec
    | some spec =>
      cases hdata : r.data.at? spec.path with
      | none => exact .absent hspec hdata
      | some v =>
        cases v with
        | null => exact .null hspec hdata
        | _ => simp [get?, hspec, hdata, Json.isNull] at hget
  · intro hlacks
    cases hlacks with
    | undeclared h => simp [get?, h]
    | absent h hdata => simp [get?, h, hdata]
    | null h hdata => simp [get?, h, hdata, Json.isNull]

namespace Query

variable {setting : Setting} {q : Query} {P : Predicate} {r : Record}

/-- Without negation, inequality and the clause that matches every record. -/
def isPositive : Query → Bool
  | field name _ relation => name != matchAllName && relation != some .ne
  | wildcard .. | range .. | comparison .. => true
  | group body => body.isPositive
  | and left right | or left right => left.isPositive && right.isPositive
  | not _ => false

theorem answerOnMissing_of_isPositive (h : q.isPositive = true) : q.answerOnMissing = false := by
  induction q with
  | field name value relation => simpa [isPositive, answerOnMissing] using h
  | wildcard | range | comparison => rfl
  | group body ih => exact ih h
  | and left right ihl ihr =>
    obtain ⟨hl, -⟩ := Bool.and_eq_true_iff.mp h
    rw [answerOnMissing, ihl hl, Bool.false_and]
  | or left right ihl ihr =>
    obtain ⟨hl, hr⟩ := Bool.and_eq_true_iff.mp h
    rw [answerOnMissing, ihl hl, ihr hr, Bool.false_or]
  | not operand => cases h

/-- To a record without any of its fields a query gives one and the same answer. -/
theorem predicate_of_lacks [Regex.Library] (hP : q.predicate setting = .ok P)
    (hr : ∀ name ∈ q.fieldNames, r.Lacks name) : P r = q.answerOnMissing := by
  induction q generalizing P with
  | field name | wildcard name | range name | comparison name =>
    have hget := Record.get?_eq_none_iff.mpr (hr name List.mem_cons_self)
    exact (reads_of_clause rfl hP).of_missing hget
  | group body ih => exact ih hP hr
  | and left right ihl ihr =>
    obtain ⟨pl, pr, hpl, hpr, rfl⟩ := predicate_of_and hP
    obtain ⟨hl, hr⟩ := (forall_fieldNames_append rfl).mp hr
    simp only [answerOnMissing, ihl hpl hl, ihr hpr hr]
  | or left right ihl ihr =>
    obtain ⟨pl, pr, hpl, hpr, rfl⟩ := predicate_of_or hP
    obtain ⟨hl, hr⟩ := (forall_fieldNames_append rfl).mp hr
    simp only [answerOnMissing, ihl hpl hl, ihr hpr hr]
  | not operand ih =>
    obtain ⟨po, hpo, rfl⟩ := predicate_of_not hP
    simp only [answerOnMissing, ih hpo hr]

/-- A query without negation rejects every record in which all its fields are undeclared, absent or
null, open ranges and lone wildcards included. -/
theorem rejects_of_lacks [Regex.Library] (hq : q.isPositive = true)
    (hP : q.predicate setting = .ok P)
    (hr : ∀ name ∈ q.fieldNames, r.Lacks name) : P r = false := by
  rw [predicate_of_lacks hP hr, answerOnMissing_of_isPositive hq]

/-- A device with neither a name nor an address nor any of the other fields. -/
theorem rejects_of_lacks_of_null_and_absent :
    let setting : Setting := ⟨.devices, 1705329342, none⟩
    let q : Query := .and
      (.or (.wildcard "name" "*") (.group (.range "total_download" none none true)))
      (.or (.wildcard "ip" "*") (.or (.comparison "last_seen" .le (.text "2024-01-15"))
        (.field "owner" (.text "") (some .approx))))
    let r : Record := ⟨.devices, .obj [("name", .null), ("ip", .null), ("owner", .str "me")]⟩
    ∃ P, q.predicate setting = .ok P ∧ P r = false := by
  intro setting q r
  have hok : (q.predicate setting).isOk = true := by decide +kernel
  obtain ⟨P, hP⟩ : ∃ P, q.predicate setting = .ok P := by
    cases hP : q.predicate setting with
    | error e => rw [hP] at hok; cases hok
    | ok P => exact ⟨P, rfl⟩
  refine ⟨P, hP, rejects_of_lacks rfl hP ?_⟩
  have hnames : q.fieldNames = ["name", "total_download", "ip", "last_seen", "owner"] := rfl
  rw [hnames]
  simp only [List.forall_mem_cons]
  exact ⟨.null rfl rfl, .absent rfl rfl, .null rfl rfl, .absent rfl rfl, .undeclared rfl, nofun⟩

end Query

end NetQuery
