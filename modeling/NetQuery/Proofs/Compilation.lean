import NetQuery.Compilation
import NetQuery.Library

namespace NetQuery

/-- A verdict whose parts agree: it is valid just when there are no errors, and just when there is a
query. -/
structure Verdict.Coherent (v : Verdict) : Prop where
  errors : v.isValid = true ↔ v.errors = []
  query : v.isValid = true ↔ ∃ q, v.query = some q

/-- Tokens that spell no query are refused for some reason. -/
theorem Query.ne_nil_of_ofTokens {tokens : Tokens} {diagnostics : List Diagnostic}
    (h : ofTokens tokens = .error diagnostics) : diagnostics ≠ [] := by
  unfold ofTokens at h
  generalize Parser.parts ⟨none, []⟩ ⟨tokens.items, tokens.finish, 0⟩ = progress at h
  obtain ⟨root, faults⟩ := progress
  cases faults with
  | nil =>
    cases root <;> cases h
    exact List.cons_ne_nil _ _
  | cons d rest =>
    cases h
    exact List.reverse_ne_nil_iff.mpr (List.cons_ne_nil d rest)

namespace Verdict

theorem coherent_invalid {errors : List String} (h : errors ≠ []) : (invalid errors).Coherent :=
  ⟨by simp [invalid, h], by simp [invalid]⟩

theorem coherent_onBlank : onBlank.Coherent :=
  ⟨by simp [onBlank, invalid], by simp [onBlank, invalid]⟩

theorem coherent_refused (text : String) (entity : Option Entity) {errors : List String}
    (names : List String) (h : errors ≠ []) : (refused text entity errors names).Coherent :=
  ⟨by simp [refused, invalid, h], by simp [refused, invalid]⟩

theorem coherent_onQuery (text : String) (entity : Option Entity) (q : Query) :
    (onQuery text entity q).Coherent :=
  ⟨by simp [onQuery], by simp [onQuery]⟩

theorem coherent_ofText (text : String) (entity : Option Entity) :
    (ofText text entity).Coherent := by
  unfold ofText
  split
  · exact coherent_onBlank
  · split
    · exact coherent_refused _ _ _ (List.cons_ne_nil _ _)
    · split
      · next hread =>
        refine coherent_refused _ _ _ fun hnil => ?_
        exact Query.ne_nil_of_ofTokens hread (List.map_eq_nil_iff.mp hnil)
      · exact coherent_onQuery _ _ _

end Verdict

namespace Compilation

/-- A compilation whose parts agree: the verdict does, and there is a plan just when it is valid. -/
structure Coherent (c : Compilation) : Prop where
  verdict : c.verdict.Coherent
  plan : c.verdict.isValid = true ↔ ∃ p, c.plan = some p

variable {v : Verdict}

theorem coherent_withWarnings (h : v.Coherent) (p : Plan) : (withWarnings v p).Coherent :=
  ⟨h.errors, h.query⟩

/-- An error of the plan takes the query away, too. -/
theorem coherent_overturned (v : Verdict) (e : PlanError) : (overturned v e).Coherent :=
  ⟨by simp [overturned], by simp [overturned]⟩

section

variable [Regex.Library]

theorem coherent_ofAdmitted (target : Target) (weighing : Score.Weighing) (text : String) :
    (ofAdmitted target weighing text).Coherent := by
  have h := Verdict.coherent_ofText (encodedText target text) (some target.entity)
  unfold ofAdmitted
  simp only
  split
  · next hnone =>
    refine ⟨h, ?_⟩
    simp [h.query, hnone]
  · next q hq =>
    have hvalid := h.query.mpr ⟨q, hq⟩
    split
    · next plan _ => exact ⟨coherent_withWarnings h plan, by simp [withWarnings, hvalid]⟩
    · next e _ => exact ⟨coherent_overturned _ e, by simp [overturned]⟩

/-- Every compilation is coherent, whether the gate refuses the text, the text is no query, its
fields are not declared, or it has no plan. -/
theorem coherent_ofText (target : Target) (text : String) : (ofText target text).Coherent := by
  unfold ofText
  simp only
  split
  · exact coherent_ofAdmitted _ _ _
  · next h =>
    have herrors : (Score.admission text target.config.maxComplexity).errors ≠ [] := by
      simpa [Score.Admission.isValid] using h
    exact ⟨Verdict.coherent_invalid herrors, by simp [Verdict.invalid]⟩

/-- Whatever a text is compiled for, it is valid just when there are no errors, just when it has a
tree, and just when it has a plan; one that is not valid keeps no record. -/
theorem isValid_iff_plan (target : Target) (text : String) :
    let c := ofText target text
    ((c.isValid = true ↔ c.verdict.errors = []) ∧
      (c.verdict.errors = [] ↔ ∃ q, c.verdict.query = some q) ∧
      ((∃ q, c.verdict.query = some q) ↔ ∃ p, c.plan = some p)) ∧
    (c.isValid = false → ∀ records, (c.run records).1 = []) := by
  intro c
  have h : c.Coherent := coherent_ofText target text
  refine ⟨⟨h.verdict.errors, h.verdict.errors.symm.trans h.verdict.query,
    h.verdict.query.symm.trans h.plan⟩, fun hinvalid records => ?_⟩
  rw [run]
  split
  · next p hp =>
    rw [isValid, h.plan.mpr ⟨p, hp⟩] at hinvalid
    cases hinvalid
  · rfl

end

/-- The text is a query, and only its plan fails. -/
theorem isValid_iff_plan_of_unreadable_time :
    let c := ofText ⟨.usual, .usual, .alarms, 0⟩ "timestamp:noon"
    (Verdict.ofText "timestamp:noon" (some .alarms)).isValid = true ∧ c.isValid = false ∧
      c.verdict.errors ≠ [] ∧ (¬ ∃ q, c.verdict.query = some q) ∧ (¬ ∃ p, c.plan = some p) ∧
      (c.run [⟨.alarms, .obj [("ts", .int 1705329342)]⟩]).1 = [] := by
  have hvalid : (Verdict.ofText "timestamp:noon" (some .alarms)).isValid = true := by
    decide +kernel
  have hinvalid : (ofText ⟨.usual, .usual, .alarms, 0⟩ "timestamp:noon").isValid = false := by
    decide +kernel
  have h := isValid_iff_plan ⟨.usual, .usual, .alarms, 0⟩ "timestamp:noon"
  generalize ofText ⟨.usual, .usual, .alarms, 0⟩ "timestamp:noon" = c at hinvalid h ⊢
  obtain ⟨⟨herrors, hquery, hplan⟩, hkept⟩ := h
  have hnot : c.verdict.errors ≠ [] := by
    rw [ne_eq, ← herrors, hinvalid]
    exact Bool.false_ne_true
  exact ⟨hvalid, hinvalid, hnot, fun hq => hnot (hquery.mpr hq),
    fun hp => hnot (hquery.mpr (hplan.mpr hp)), hkept hinvalid _⟩

end Compilation

end NetQuery
