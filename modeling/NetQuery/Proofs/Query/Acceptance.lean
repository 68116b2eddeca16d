import NetQuery.Proofs.Query.Reading
import NetQuery.Proofs.Token.Locality
import NetQuery.Query.Verdict

namespace NetQuery

open Grammar Lexer

variable {text : String} {entity : Option Entity} {q : Query}

theorem Query.undeclaredFields_eq_nil {entity : Entity} : q.undeclaredFields entity = [] ↔
    ∀ leaf ∈ q.leaves, undeclaredName? entity leaf = none := by
  simp [undeclaredFields_eq, List.filterMap_eq_nil_iff]

theorem not_blank_of_spells {s : Symbol} {ts : List Symbol} (h : Spells text.toList (s :: ts)) :
    Text.isAllBlank text = false := by
  rw [Bool.eq_false_iff]
  intro hall
  obtain ⟨tokens, ht, hts⟩ := h
  rw [tokensFrom_of_allBlank (List.all_eq_true.mp hall)] at ht
  cases ht
  cases hts

/-- The verdict on a text is the one on the query that its tokens are read as, or refuses it. -/
theorem Verdict.ofText_cases (text : String) (entity : Option Entity) :
    (∃ tokens q, tokenize text = .ok tokens ∧ Query.ofTokens tokens = .ok q ∧
      ofText text entity = onQuery text entity q) ∨
    (ofText text entity).isValid = false ∧ (ofText text entity).query = none := by
  unfold ofText
  split
  · exact .inr ⟨rfl, rfl⟩
  · split
    · exact .inr ⟨rfl, rfl⟩
    · next tokens htokens =>
      split
      · exact .inr ⟨rfl, rfl⟩
      · next q hread => exact .inl ⟨tokens, q, htokens, hread, rfl⟩

theorem Verdict.query_onQuery {q' : Query} : (onQuery text entity q').query = some q ↔
    q' = q ∧ ∀ e ∈ entity, ∀ leaf ∈ q.leaves, Query.undeclaredName? e leaf = none := by
  cases entity with
  | none => simp [onQuery]
  | some e =>
    simp only [onQuery, Option.mem_def, Option.some.injEq, forall_eq', List.isEmpty_iff,
      List.map_eq_nil_iff, Query.undeclaredFields_eq_nil, Option.ite_none_right_eq_some]
    constructor
    · rintro ⟨hnames, rfl⟩
      exact ⟨rfl, hnames⟩
    · rintro ⟨rfl, hnames⟩
      exact ⟨hnames, rfl⟩

/-- What a text is read as, by its tokens. -/
theorem Verdict.query_eq_some_iff : (ofText text entity).query = some q ↔
    ∃ ts, Spells text.toList ts ∧ Derives .expression ts q ∧ q.leaves.length ≤ maxClauses ∧
      1 + q.nesting ≤ maxDepth ∧
      ∀ e ∈ entity, ∀ leaf ∈ q.leaves, Query.undeclaredName? e leaf = none := by
  constructor
  · intro h
    obtain ⟨tokens, q', htokens, hread, hverdict⟩ | ⟨-, hnone⟩ := ofText_cases text entity
    · rw [hverdict] at h
      obtain ⟨rfl, hnames⟩ := query_onQuery.mp h
      obtain ⟨hd, hclauses, hnesting⟩ := Query.ofTokens_eq_ok_iff_derives.mp hread
      exact ⟨tokens.symbols, ⟨tokens, htokens, rfl⟩, hd, hclauses, hnesting, hnames⟩
    · rw [hnone] at h
      cases h
  · rintro ⟨ts, hs, hd, hclauses, hnesting, hnames⟩
    obtain ⟨s, rest, rfl, -⟩ := hd.starts rfl
    have hblank := not_blank_of_spells hs
    obtain ⟨tokens, ht, hts⟩ := hs
    have hread : Query.ofTokens tokens = .ok q := by
      rw [← hts] at hd
      exact Query.ofTokens_eq_ok_iff_derives.mpr ⟨hd, hclauses, hnesting⟩
    have htokens : tokenize text = .ok tokens := ht
    simp only [ofText, hblank, htokens, hread]
    exact query_onQuery.mpr ⟨rfl, hnames⟩

/-- A text is valid just when it is read as a query. -/
theorem Verdict.isValid_iff : (ofText text entity).isValid = true ↔
    ∃ q, (ofText text entity).query = some q := by
  obtain ⟨tokens, q, -, -, hverdict⟩ | ⟨hvalid, hnone⟩ := ofText_cases text entity
  · rw [hverdict]
    simp [onQuery]
  · simp [hvalid, hnone]

end NetQuery
