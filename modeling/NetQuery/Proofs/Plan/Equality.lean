import NetQuery.Library
import NetQuery.Proofs.Number.Decimals
import NetQuery.Proofs.Number.Rounding
import NetQuery.Proofs.Plan.Split

namespace NetQuery

open Number

namespace Literal

variable {word : String} {cs : List Char} {e : Int}

/-- The text of a whole number has no point. -/
theorem looksDecimal_of_readInteger? (h : readInteger? cs = some e) : looksDecimal cs = false := by
  obtain ⟨digits, m, hread, hcases⟩ := exists_digits_of_readInteger? h
  have hdigits : '.' ∉ digits := by
    intro hmem
    have hpoint := (readDigits?_eq_some_iff.mp hread).2.1 '.' hmem
    revert hpoint
    decide
  have hpoint : '.' ∉ cs := by
    rcases hcases with ⟨rfl, -⟩ | ⟨rfl | rfl, -⟩
    · simpa using hdigits
    · simpa using hdigits
    · exact hdigits
  have hnone {body : List Char} (hbody : '.' ∉ body) : (body.count '.' == 1) = false := by
    rw [List.count_eq_zero.mpr hbody]
    rfl
  unfold looksDecimal
  split
  · simp only [hnone fun hmem => hpoint (List.mem_cons_of_mem _ hmem), Bool.false_and]
  · simp only [hnone hpoint, Bool.false_and]

/-- A word for a whole number stands for the number nearest to it, whether it is kept as a number or
as text. -/
theorem number?_ofWord (h : readInteger? word.toList = some e) :
    (ofWord word).number? = some (.ofInt e) := by
  unfold ofWord
  rw [h, Option.filter_some, looksDecimal_of_readInteger? h]
  by_cases hexact : e.natAbs ≤ maxExact.natAbs
  · rw [decide_eq_true hexact]
    rfl
  · rw [decide_eq_false hexact]
    obtain ⟨negative, n, hread, rfl⟩ := readBinary64?_of_readInteger? h
    have hn : n ≠ 0 := by
      rintro rfl
      apply hexact
      cases negative <;> decide
    change readBinary64? word = _
    rw [hread, ofDecimal_zero_exponent negative hn]

end Literal

/-- Where both the value and the literal are numbers, or spell them, the numbers decide. -/
theorem Match.equals_of_numbers {actual : Json} {expected : Literal} {x y : Binary64}
    (hx : number? actual = some x) (hy : expected.number? = some y) :
    equals actual expected = x.eq y := by
  cases actual with
  | bool b => cases hx
  | _ => simp only [equals, hx, hy]

namespace Query

open Literal

variable {setting : Setting} {name : String} {value : Literal}

theorem predicate_by_value [Regex.Library] {kind : FieldKind}
    (hkind : setting.entity.kind? name = some kind) (hip : kind ≠ .ip) (htime : kind ≠ .timestamp) :
    (field name value none).predicate setting = .ok (Predicate.equalTo name value) := by
  have hstar := ne_matchAllName_of_kind? hkind
  cases kind with
  | ip => exact absurd rfl hip
  | timestamp => exact absurd rfl htime
  | _ => simp [predicate, fieldPredicate, hstar, hkind, Predicate.signed]

/-- A clause for a whole number accepts the records whose whole number rounds to the same binary64
number: just that number when either of the two is within the exact range, and its neighbours too
beyond it. -/
theorem accepts_number_iff_nearest [Regex.Library] {word : String} {e : Int}
    (hkind : setting.entity.kind? name = some .number) (hword : readInteger? word.toList = some e) :
    ∃ P, (field name (.ofWord word) none).predicate setting = .ok P ∧
      ∀ r a, r.get? name = some (.int a) →
        (P r = true ↔ (Binary64.ofInt a).eq (.ofInt e) = true) ∧
        (a.natAbs ≤ maxExact.natAbs ∨ e.natAbs ≤ maxExact.natAbs → (P r = true ↔ a = e)) := by
  refine ⟨_, predicate_by_value hkind (by decide) (by decide), ?_⟩
  intro r a hget
  have hnearest : Predicate.equalTo name (.ofWord word) r = true ↔
      (Binary64.ofInt a).eq (.ofInt e) = true := by
    rw [Predicate.equalTo, hget, Option.any_some,
      Match.equals_of_numbers rfl (number?_ofWord hword)]
  refine ⟨hnearest, ?_⟩
  have hexact {n : Int} (hn : n.natAbs ≤ maxExact.natAbs) : n.natAbs < 2 ^ 53 :=
    Nat.lt_of_le_of_lt hn (by decide)
  rintro (ha | he)
  · rw [hnearest, Binary64.eq_comm, Binary64.eq_ofInt_iff (hexact ha)]
    exact eq_comm
  · rw [hnearest, Binary64.eq_ofInt_iff (hexact he)]

/-- The least exact number, below zero: it accepts itself only, however large the other number. -/
theorem accepts_number_iff_nearest_of_least_exact :
    let setting : Setting := ⟨.flows, 0, none⟩
    let record (a : Int) : Record := ⟨.flows, .obj [("total", .int a)]⟩
    ∃ P, (field "bytes" (.ofWord "-9007199254740991") none).predicate setting = .ok P ∧
      (∀ a, P (record a) = true ↔ a = -9007199254740991) ∧
      P (record (-9007199254740991)) = true ∧ P (record (-9007199254740992)) = false := by
  intro setting record
  have hkind : setting.entity.kind? "bytes" = some .number := rfl
  have hword : readInteger? "-9007199254740991".toList = some (-9007199254740991) := by decide
  obtain ⟨P, hP, hexact⟩ := accepts_number_iff_nearest hkind hword
  have haccepts (a : Int) : P (record a) = true ↔ a = -9007199254740991 := by
    have hget : (record a).get? "bytes" = some (.int a) := rfl
    exact (hexact (record a) a hget).2 (.inr (by decide))
  refine ⟨P, hP, haccepts, (haccepts _).mpr rfl, ?_⟩
  rw [Bool.eq_false_iff, Ne, haccepts]
  decide

/-- Beyond the exact numbers an odd number accepts the even number that it is rounded to. -/
theorem accepts_neighbour_of_large_number :
    let setting : Setting := ⟨.flows, 0, none⟩
    let record : Record := ⟨.flows, .obj [("total", .int 9007199254740992)]⟩
    setting.entity.kind? "bytes" = some .number ∧
      readInteger? "9007199254740993".toList = some 9007199254740993 ∧
      record.get? "bytes" = some (.int 9007199254740992) ∧
      (9007199254740992 : Int) ≠ 9007199254740993 ∧
      ∃ P, (field "bytes" (.ofWord "9007199254740993") none).predicate setting = .ok P ∧
        P record = true := by
  refine ⟨rfl, by decide, rfl, by decide, _, predicate_by_value rfl (by decide) (by decide), ?_⟩
  decide +kernel

end Query

end NetQuery
