import NetQuery.Proofs.Spelling.Translation

namespace NetQuery.Spelling

open Text Lexer

variable {words : Words} {whole : Prop} {entity : Entity} {value : List Char} {field : String}
  {q q' : Query} {setting : Setting} {r : Record}

/-- The boolean fields of the record hold truth values, or nothing. -/
def HoldsTruths (entity : Entity) (r : Record) : Prop :=
  ∀ name ∈ entity.namesOfKind .boolean, ∀ v, r.get? name = some v → ∃ b, v = .bool b

def holdsTruth (r : Record) (field : String) (truth : Bool) : Bool :=
  (r.get? field).any fun
    | .bool b => b == truth
    | _ => false

/-- In a word of the language the case of letters is that of ASCII. -/
theorem foldCase_of_inWord {c : Char} (hc : inWord c = true) :
    foldCase c = c.toLower ∧ (c.isAlpha = true ∨ c.toLower = c) := by
  have hbound := toNat_of_inWord hc
  have hlast : 'z'.toNat = 0x7a := rfl
  refine ⟨foldCase_of_lt (by omega), ?_⟩
  rcases toLower_cases c with ⟨hlow, hhigh, -⟩ | hsame
  · left
    exact isAlpha_iff.mpr (.inl ⟨hlow, hhigh⟩)
  · exact .inr hsame

theorem IsTruth.lower_mem (h : IsTruth value) (hword : ∀ c ∈ value, Lexer.inWord c = true) :
    lowerAscii (String.ofList value) ∈ truthWords := by
  obtain ⟨word, hmem, hfolded⟩ := isTruth_iff_folded.mp h
  have hlower : value.map foldCase = value.map Char.toLower :=
    List.map_congr_left fun c hc => (foldCase_of_inWord (hword c hc)).1
  rw [map_foldCase_truthWord hmem, hlower] at hfolded
  rw [lowerAscii, String.toList_ofList, ← hfolded, String.ofList_toList]
  exact hmem

/-- What a truth value is compared with to be spelled by a truth word. -/
theorem truthEquals_lower (h : lowerAscii (String.ofList value) ∈ truthWords) (b : Bool) :
    Match.truthEquals b (lowerAscii (String.ofList value)) =
      (b == isTruthy (String.ofList value)) := by
  unfold isTruthy
  generalize lowerAscii (String.ofList value) = word at h ⊢
  revert word b
  decide

/-- A truth word is no pattern, and it is a value where it begins with no letter. -/
theorem IsTruth.wordSymbol_cases (h : IsTruth value) :
    (∀ pattern, wordSymbol value ≠ .wildcard pattern) ∧
      (wordSymbol value = .value (String.ofList value) →
        value.head?.any (fun c => c.isAlpha) = false) := by
  have hstar : (value.any fun c => c == '*' || c == '?') = false := by
    rw [List.any_eq_false]
    intro c hc hwild
    have hword := h.isWord c hc
    simp only [Bool.or_eq_true, beq_iff_eq] at hwild
    obtain rfl | rfl := hwild <;> rw [isWordChar_of_lt (by decide)] at hword <;> cases hword
  have hkeyword (word : String) : (∀ pattern, keywordOrField word ≠ .wildcard pattern) ∧
      ∀ text, keywordOrField word ≠ .value text := by
    unfold keywordOrField
    split <;> simp
  unfold wordSymbol
  rw [if_neg (by simp [hstar])]
  split
  · exact ⟨(hkeyword _).1, fun hvalue => absurd hvalue ((hkeyword _).2 _)⟩
  · next hhead =>
    refine ⟨by simp, fun _ => ?_⟩
    rw [Bool.eq_false_iff]
    intro halpha
    refine hhead ?_
    cases hv : value.head? with
    | none => simp [hv] at halpha
    | some c => simp_all

/-- The truth words without letters are numbers. -/
theorem IsTruth.eq_digit (h : IsTruth value) (hword : ∀ c ∈ value, Lexer.inWord c = true)
    (hhead : value.head?.any (fun c => c.isAlpha) = false) : value = ['1'] ∨ value = ['0'] := by
  obtain ⟨c, rest, rfl⟩ := List.exists_cons_of_ne_nil (List.ne_nil_of_length_pos h.length_le.1)
  have hmem := h.lower_mem hword
  have hc : c.toLower = c := (foldCase_of_inWord (hword c List.mem_cons_self)).2.resolve_left
    (by simpa using hhead)
  have hdigits : ∀ word ∈ truthWords, word.toList.head?.any (fun c => c.isAlpha) = true ∨
      word.toList = ['1'] ∨ word.toList = ['0'] := by decide
  have hlower : (lowerAscii (String.ofList (c :: rest))).toList = c :: rest.map Char.toLower := by
    rw [lowerAscii, String.toList_ofList, String.toList_ofList, List.map_cons, hc]
  have hdigit := hdigits _ hmem
  rw [hlower] at hdigit
  obtain hletter | hdigit | hdigit := hdigit
  · rw [List.head?_cons] at hletter hhead
    rw [hletter] at hhead
    cases hhead
  all_goals
    obtain ⟨rfl, hrest⟩ := List.cons.inj hdigit
    obtain rfl := List.map_eq_nil_iff.mp hrest
    simp

/-- The literal of a condition that is a truth word, in small letters. -/
theorem exists_literal (h : IsTruth value) (hword : ∀ c ∈ value, inWord c = true)
    (hq : Grammar.Condition field [wordSymbol value] q) :
    ∃ v, q = .field field v none ∧ lowerAscii v.toText = lowerAscii (String.ofList value) := by
  obtain ⟨hpattern, hdigit⟩ := h.wordSymbol_cases
  obtain (hs | hs | hs) | ⟨-, ⟨w, hs⟩ | hs⟩ := Lexer.wordSymbol_cases value
  · exact absurd hs (hpattern _)
  · rw [hs] at hq
    cases hq with
    | value hv _ =>
      cases hv
      exact ⟨_, rfl, rfl⟩
  · have hnumber := h.eq_digit hword (hdigit hs)
    rw [hs] at hq
    cases hq with
    | value hv _ =>
      cases hv
      refine ⟨_, rfl, ?_⟩
      obtain rfl | rfl := hnumber <;> decide
  all_goals
    rw [hs] at hq
    cases hq with
    | value hv _ => cases hv

theorem kind?_of_mem (h : field ∈ entity.namesOfKind .boolean) :
    entity.kind? field = some .boolean ∧ field ≠ Query.matchAllName := by
  have hall : (entity.namesOfKind .boolean).all (fun name =>
      entity.kind? name == some .boolean && name != Query.matchAllName) = true := by
    cases entity <;> decide
  simpa using List.all_eq_true.mp hall field h

/-- What a condition with a truth word says of a record. -/
theorem answer_of_truth [Regex.Library] (hentity : setting.entity = entity)
    (hfield : field ∈ entity.namesOfKind .boolean) (hr : HoldsTruths entity r)
    (h : IsTruth value) (hword : ∀ c ∈ value, inWord c = true)
    (hq : Grammar.Condition field [wordSymbol value] q) :
    q.answer setting r = .ok (holdsTruth r field (isTruthy (String.ofList value))) := by
  obtain ⟨v, rfl, hv⟩ := exists_literal h hword hq
  obtain ⟨hkind, hname⟩ := kind?_of_mem hfield
  have hpredicate : (Query.field field v none).predicate setting =
      .ok (Predicate.equalTo field v) := by
    simp [Query.predicate, Query.fieldPredicate, hname, hentity, hkind, Predicate.signed]
  rw [Query.answer, hpredicate, Except.map, Predicate.equalTo, holdsTruth]
  cases hget : r.get? field with
  | none => rfl
  | some actual =>
    obtain ⟨b, rfl⟩ := hr field hfield actual hget
    simp [Match.equals, hv, truthEquals_lower (h.lower_mem hword)]

/-- A clause with a respelled truth word says the same of a record. -/
theorem SameClause.answer [Regex.Library] (hentity : setting.entity = entity)
    (hr : HoldsTruths entity r) (hwords : words.Fit (entity.namesOfKind .boolean)) (hwhole : whole)
    (h : SameClause (entity.namesOfKind .boolean) words whole q q') :
    q.answer setting r = q'.answer setting r := by
  cases h with
  | same => rfl
  | value hfield hs hq hq' =>
    obtain ⟨htruth, hword, hending⟩ := hs
    obtain rfl := hending hwhole
    rw [List.append_nil] at hq hq'
    rw [answer_of_truth hentity hfield hr htruth hword hq,
      answer_of_truth hentity hfield hr (hwords.isTruth _) (hwords.inWord _) hq',
      hwords.isTruthy]

end NetQuery.Spelling
