import NetQuery.Library
import NetQuery.Proofs.Plan.Equality

namespace NetQuery

open Number

/-- A text equals itself unless it is the word for what is not a number, in any case of its letters
and with a sign or without. -/
theorem Match.equals_own_text_iff (s : String) :
    equals (.str s) (.text s) = true ↔ Text.lowerAscii s ∉ ["nan", "+nan", "-nan"] := by
  rw [← readBinary64?_eq_nan_iff]
  cases hread : readBinary64? s with
  | none =>
    have htext : equals (.str s) (.text s) = true := by
      simp [equals, Literal.number?, hread, Json.plainText?, Literal.toText]
    exact iff_of_true htext (by simp)
  | some x =>
    have hactual : number? (.str s) = some x := by
      change readBinary64? (Text.trim s) = some x
      rw [trim_of_readBinary64? hread, hread]
    have hexpected : (Literal.text s).number? = some x := hread
    rw [equals_of_numbers hactual hexpected]
    constructor
    · intro heq hnan
      cases hnan
      cases heq
    · intro hne
      exact Binary64.eq_self_of_ne_nan fun hx => hne (congrArg some hx)

namespace Query

variable {setting : Setting} {name : String}

/-- A clause on a field of texts accepts the records that hold just its text, whatever number that
spells, unless the text is the word for what is not a number. -/
theorem accepts_own_text_iff [Regex.Library] (hkind : setting.entity.kind? name = some .text)
    (s : String) :
    ∃ P, (field name (.text s) none).predicate setting = .ok P ∧
      ∀ r, r.get? name = some (.str s) →
        (P r = true ↔ Text.lowerAscii s ∉ ["nan", "+nan", "-nan"]) := by
  refine ⟨_, predicate_by_value hkind (by decide) (by decide), ?_⟩
  intro r hget
  rw [Predicate.equalTo, hget, Option.any_some]
  exact Match.equals_own_text_iff s

/-- Infinite numbers, a zero with a sign and the word behind a blank are accepted. -/
theorem accepts_own_text_iff_of_infinity :
    let setting : Setting := ⟨.devices, 0, none⟩
    let record (s : String) : Record := ⟨.devices, .obj [("name", .str s)]⟩
    ∀ s ∈ ["1e400", "-Infinity", "-0", " nan"],
      ∃ P, (field "name" (.text s) none).predicate setting = .ok P ∧ P (record s) = true := by
  intro setting record s hs
  have hkind : setting.entity.kind? "name" = some .text := rfl
  have hwords : ∀ s ∈ ["1e400", "-Infinity", "-0", " nan"],
      Text.lowerAscii s ∉ ["nan", "+nan", "-nan"] := by decide
  obtain ⟨P, hP, haccepts⟩ := accepts_own_text_iff hkind s
  exact ⟨P, hP, (haccepts (record s) rfl).mpr (hwords s hs)⟩

/-- A record that holds the word is rejected by the query for it, which has the word as text. -/
theorem rejects_own_text_of_nan :
    let setting : Setting := ⟨.devices, 0, none⟩
    let record : Record := ⟨.devices, .obj [("name", .str "nan")]⟩
    setting.entity.kind? "name" = some .text ∧ Literal.ofWord "nan" = .text "nan" ∧
      record.get? "name" = some (.str "nan") ∧
      ∃ P, (field "name" (.text "nan") none).predicate setting = .ok P ∧ P record = false := by
  refine ⟨rfl, by decide, rfl, _, predicate_by_value rfl (by decide) (by decide), ?_⟩
  decide

end Query

end NetQuery
