import NetQuery.Library
import NetQuery.Proofs.Spelling.Alone
import NetQuery.Proofs.Spelling.Meaning

namespace NetQuery.Spelling

open Text Lexer Grammar

/-- The text with its conditions respelled outside quotes, and no value inserted. -/
def assignText (encoding : Encoding) (entity : Entity) (text : String) : String :=
  String.ofList (((segments text.toList).map
    (Segment.respelled (assign (entity.namesOfKind .boolean) encoding.words))).flatMap (·.chars))

/-- Whether the truth word of each condition outside quotes is a whole word. -/
def hasWholeTruths (entity : Entity) (text : String) : Bool :=
  (segments text.toList).all fun s =>
    s.quoted || wholeTruths (entity.namesOfKind .boolean) none s.chars

variable {encoding : Encoding} {entity : Entity} {text : String} {words : Words} {whole : Prop}
  {q q' : Query}

theorem SameClause.undeclaredName? (h : SameClause (entity.namesOfKind .boolean) words whole q q')
    (hq : Query.undeclaredName? entity q = none) : Query.undeclaredName? entity q' = none := by
  cases h with
  | same => exact hq
  | value hfield _ _ hq' =>
    have hhas : (entity.namesOfKind .boolean).all entity.hasField = true := by
      cases entity <;> decide
    have hdeclared := List.all_eq_true.mp hhas _ hfield
    unfold Query.undeclaredName?
    split
    · rfl
    · simp [hq'.fieldName?, hdeclared]

/-- The tokens of a query on declared fields are well placed. -/
theorem exists_placed (hq : (Verdict.ofText text (some entity)).query = some q) :
    ∃ ts, Spells text.toList ts ∧ placed (declaredBy entity) none ts [] = true := by
  obtain ⟨ts, hs, hd, -, -, hnames⟩ := Verdict.query_eq_some_iff.mp hq
  exact ⟨ts, hs, hd.placed none [] (hnames entity rfl) rfl (by simp)⟩

/-- A query with its conditions respelled and no value inserted is a query of the same shape. -/
theorem exists_query_of_assignText (encoding : Encoding)
    (hq : (Verdict.ofText text (some entity)).query = some q) :
    ∃ q', (Verdict.ofText (assignText encoding entity text) (some entity)).query = some q' ∧
      Query.Alike (SameClause (entity.namesOfKind .boolean) encoding.words
        (hasWholeTruths entity text = true)) q q' := by
  obtain ⟨ts, hs, hd, hclauses, hnesting, hnames⟩ := Verdict.query_eq_some_iff.mp hq
  have hplaced := hd.placed none [] (hnames entity rfl) rfl (by simp)
  have hwhole : hasWholeTruths entity text = true → ∀ s ∈ segments text.toList,
      s.quoted = false → wholeTruths (entity.namesOfKind .boolean) none s.chars = true := by
    intro h s hmem hquoted
    simpa [hquoted] using List.all_eq_true.mp h s hmem
  rw [← flatMap_segments text.toList] at hs
  obtain ⟨ts', hs', hr⟩ := exists_respelled (areNames_boolean entity) (encoding.fit entity)
    (segmented_segments text.toList) hs hplaced hwhole
  obtain ⟨q', hd', halike⟩ := hr.exists_derives encoding.areValues hd .expression
  refine ⟨q', Verdict.query_eq_some_iff.mpr ⟨ts', ?_, hd', ?_, ?_, ?_⟩, halike⟩
  · rwa [assignText, String.toList_ofList]
  · rwa [← halike.leaves.length_eq]
  · rwa [← halike.nesting]
  · rintro _ ⟨⟩ leaf hleaf
    obtain ⟨leaf', hleaf', hsame⟩ := exists_left_of_forall₂ halike.leaves hleaf
    exact hsame.undeclaredName? (hnames entity rfl leaf' hleaf')

/-- The encoding respells the conditions of a text and expands what it gets. -/
theorem encode_eq (encoding : Encoding) (entity : Entity) (text : String) :
    encode encoding entity text = String.ofList ((((segments text.toList).map
      (Segment.respelled (assign (entity.namesOfKind .boolean) encoding.words))).map
        (Segment.respelled (expand (entity.namesOfKind .boolean) encoding.words.truthy))).flatMap
          (·.chars)) := by
  rw [encode, respell_eq, List.map_map]
  congr 3
  funext s
  simp only [Function.comp_apply, Segment.respelled]
  split
  · rfl
  · rfl

/-- Where a query and its encoding are both queries on declared fields, no value was inserted. -/
theorem encode_eq_assignText (hq : (Verdict.ofText text (some entity)).query = some q)
    (hq' : (Verdict.ofText (encode encoding entity text) (some entity)).query = some q') :
    encode encoding entity text = assignText encoding entity text := by
  have hfields := areNames_boolean entity
  have hwords := encoding.fit entity
  obtain ⟨q₁, hq₁, -⟩ := exists_query_of_assignText encoding hq
  obtain ⟨ts, hs, hplaced⟩ := exists_placed hq₁
  obtain ⟨ts', hs', hplaced'⟩ := exists_placed hq'
  have hsegmented := (segmented_segments text.toList).respelled
    fun _ hcs => isPlain_assign hfields hwords.toLegible hcs
  rw [assignText, String.toList_ofList] at hs
  rw [encode_eq, String.toList_ofList] at hs'
  have hsame := expand_eq_self_of_placed hfields hwords hsegmented hs hs' hplaced hplaced'
  have hkept : ∀ s ∈ (segments text.toList).map
      (Segment.respelled (assign (entity.namesOfKind .boolean) encoding.words)),
      s.respelled (expand (entity.namesOfKind .boolean) encoding.words.truthy) = id s := by
    intro s hs
    rw [Segment.respelled]
    split
    · rfl
    · next hquoted => rw [hsame s hs (by simpa using hquoted), id]
  rw [encode_eq, assignText, List.map_congr_left hkept, List.map_id]

/-- The encoding of a query on the fields of an entity is one just when it inserts no value, and
then, where the truth words of its conditions are whole words, both say the same of every record
that holds truth values, or nothing, in its boolean fields. -/
theorem encode_preserves [Regex.Library] (encoding : Encoding) {entity : Entity} {text : String}
    {q : Query} (hq : (Verdict.ofText text (some entity)).query = some q) :
    ((Verdict.ofText (encode encoding entity text) (some entity)).isValid = true ↔
      encode encoding entity text = assignText encoding entity text) ∧
    ∀ q', (Verdict.ofText (encode encoding entity text) (some entity)).query = some q' →
      hasWholeTruths entity text = true →
      ∀ (setting : Setting) (r : Record), setting.entity = entity → HoldsTruths entity r →
        q.answer setting r = q'.answer setting r := by
  obtain ⟨q₁, hq₁, halike⟩ := exists_query_of_assignText encoding hq
  refine ⟨⟨fun hvalid => ?_, fun hsame => ?_⟩, fun q' hq' hwhole setting r hentity hr => ?_⟩
  · obtain ⟨q', hq'⟩ := Verdict.isValid_iff.mp hvalid
    exact encode_eq_assignText hq hq'
  · rw [hsame]
    exact Verdict.isValid_iff.mpr ⟨q₁, hq₁⟩
  · have hsame := encode_eq_assignText hq hq'
    rw [hsame, hq₁] at hq'
    cases hq'
    exact halike.answer fun _ _ h => h.answer hentity hr (encoding.fit entity) hwhole

theorem encode_preserves_of_negated_truth :
    let text := "online:Yes AND NOT ip_reserved:off"
    let encoded := "online:1 AND NOT ip_reserved:0"
    let q : Query := .and (.field "online" (.text "Yes") none)
      (.not (.field "ip_reserved" (.text "off") none))
    let q' : Query := .and (.field "online" (.int 1) none)
      (.not (.field "ip_reserved" (.int 0) none))
    let setting : Setting := ⟨.devices, 0, none⟩
    let r : Record := ⟨.devices, .obj [("online", .bool true)]⟩
    encode .numeric .devices text = encoded ∧
      (Verdict.ofText encoded (some .devices)).query = some q' ∧
      (Verdict.ofText encoded (some .devices)).isValid = true ∧
      q.answer setting r = q'.answer setting r := by
  intro text encoded q q' setting r
  have hq : (Verdict.ofText text (some .devices)).query = some q := by decide +kernel
  have hencoded : encode .numeric .devices text = encoded := by decide +kernel
  have hq' : (Verdict.ofText encoded (some .devices)).query = some q' := by decide +kernel
  have hkept : encode .numeric .devices text = assignText .numeric .devices text := by
    decide +kernel
  have hwhole : hasWholeTruths .devices text = true := by decide +kernel
  have hr : HoldsTruths .devices r := by
    intro name hname v hv
    have hnames : name = "online" ∨ name = "ip_reserved" := by
      simpa [Entity.namesOfKind, Entity.fields, Entity.deviceFields] using hname
    obtain rfl | rfl := hnames
    · obtain rfl : v = .bool true := (Option.some.inj hv).symm
      exact ⟨true, rfl⟩
    · cases hv
  obtain ⟨hvalid, hanswer⟩ := encode_preserves .numeric hq
  rw [hencoded] at hvalid hanswer
  exact ⟨hencoded, hq', hvalid.mpr (hencoded.symm.trans hkept),
    hanswer q' hq' hwhole setting r rfl hr⟩

/-- A value with a slash before the name of a boolean field is given a second value, which makes the
query none, and a pattern that begins with a truth word becomes another pattern. -/
theorem encode_of_slashed_value_and_pattern :
    ((Verdict.ofText "name:x/online" (some .devices)).isValid = true ∧
      encode .numeric .devices "name:x/online" = "name:x/online:1" ∧
      (Verdict.ofText "name:x/online:1" (some .devices)).isValid = false) ∧
    ∃ q q' : Query, ∃ r : Record,
      (Verdict.ofText "online:true*" (some .devices)).query = some q ∧
      (Verdict.ofText (encode .numeric .devices "online:true*") (some .devices)).query = some q' ∧
      r.get? "online" = some (.bool true) ∧
      ((q.predicate ⟨.devices, 0, none⟩).toOption.map (· r)) = some true ∧
      ((q'.predicate ⟨.devices, 0, none⟩).toOption.map (· r)) = some false := by
  refine ⟨by decide +kernel, .wildcard "online" "true*", .wildcard "online" "1*",
    ⟨.devices, .obj [("online", .bool true)]⟩, ?_, ?_, rfl, ?_, ?_⟩ <;> decide +kernel

end NetQuery.Spelling
