import NetQuery.Library
import NetQuery.Proofs.Plan.Split

namespace NetQuery

theorem AddressPattern.matchesText_of_isInvalid {pattern : AddressPattern}
    (h : pattern.isInvalid = true) (address : String) : pattern.matchesText address = false := by
  cases pattern with
  | invalid text => rfl
  | exact | block | wildcard => cases h

theorem Predicate.onAddress_of_isInvalid {pattern : AddressPattern}
    (h : pattern.isInvalid = true) (name : String) (r : Record) :
    onAddress name pattern r = false := by
  unfold onAddress
  cases r.text? name with
  | none => rfl
  | some address => exact AddressPattern.matchesText_of_isInvalid h address

namespace Query

variable {setting : Setting} {name : String} {value : Literal} {relation : Option Relation}

/-- A clause on an address field whose text is no pattern has one stage and a predicate. Both accept
all records if the clause is an inequality; if it is an equality, with or without its sign, both
accept none. -/
theorem accepts_of_invalid_address [Regex.Library] (hkind : setting.entity.kind? name = some .ip)
    (hrelation : relation ≠ some .approx)
    (hinvalid : (AddressPattern.ofText value.toText).isInvalid = true) :
    ∃ p stage P, Filter.address.plan setting (.field name value relation) = .ok p ∧
      p.stages = some [stage] ∧ (field name value relation).predicate setting = .ok P ∧
      ∀ r, (stage.accepts r = true ↔ relation = some .ne) ∧
        (P r = true ↔ relation = some .ne) := by
  refine ⟨_, _, _, rfl, rfl, predicate_on_address hkind hrelation, ?_⟩
  intro r
  have hpasses : (Predicate.onAddress name (.ofText value.toText) r !=
      (relation == some .ne)) = true ↔ relation = some .ne := by
    simp [Predicate.onAddress_of_isInvalid hinvalid]
  exact ⟨hpasses, hpasses⟩

/-- An octet beyond 255: not even the flow that has this very text for its address is accepted. -/
theorem accepts_of_invalid_address_of_large_octet :
    let setting : Setting := ⟨.flows, 1705329342, none⟩
    let q : Query := .field "source_ip" (.text "999.1.1.1") (some .eq)
    let r : Record := ⟨.flows, .obj [("source", .obj [("ip", .str "999.1.1.1")])]⟩
    r.text? "source_ip" = some "999.1.1.1" ∧
    ∃ p stage P, Filter.address.plan setting q = .ok p ∧ p.stages = some [stage] ∧
      q.predicate setting = .ok P ∧ stage.accepts r = false ∧ P r = false := by
  intro setting q r
  have hkind : setting.entity.kind? "source_ip" = some .ip := rfl
  have hrelation : some Relation.eq ≠ some .approx := by decide
  have hinvalid : (AddressPattern.ofText (Literal.text "999.1.1.1").toText).isInvalid = true := by
    decide
  obtain ⟨p, stage, P, hplan, hstages, hP, haccepts⟩ :=
    accepts_of_invalid_address hkind hrelation hinvalid
  refine ⟨by decide, p, stage, P, hplan, hstages, hP, ?_, ?_⟩
  · rw [Bool.eq_false_iff, Ne, (haccepts r).1]
    decide
  · rw [Bool.eq_false_iff, Ne, (haccepts r).2]
    decide

/-- The inequality with such a text accepts a flow from another address. -/
theorem accepts_of_inequality_with_invalid_address :
    let setting : Setting := ⟨.flows, 1705329342, none⟩
    let q : Query := .field "source_ip" (.text "999.1.1.1") (some .ne)
    let r : Record := ⟨.flows, .obj [("source", .obj [("ip", .str "10.0.0.1")])]⟩
    (AddressPattern.ofText (Literal.text "999.1.1.1").toText).isInvalid = true ∧
    ∃ p stage P, Filter.address.plan setting q = .ok p ∧ p.stages = some [stage] ∧
      q.predicate setting = .ok P ∧ stage.accepts r = true ∧ P r = true := by
  intro setting q r
  refine ⟨by decide, _, _, _, rfl, rfl, rfl, ?_, ?_⟩
  · decide
  · decide

end Query

end NetQuery
