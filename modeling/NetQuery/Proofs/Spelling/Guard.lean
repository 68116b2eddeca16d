import NetQuery.Proofs.Spelling.Preservation

namespace NetQuery.Spelling

open Text Lexer Grammar

/-- Characters of raw text within words, at which the name of a condition may begin all the same. -/
def joints : List Char := ['.', '-', '*', '?']

theorem isWordChar_of_joint {c : Char} (h : c ∈ joints) : isWordChar c = false := by
  have hjoints : joints.all (fun c => decide (c.toNat < 0xaa) && !(c.isAlphanum || c == '_')) =
      true := by decide
  have hjoint := List.all_eq_true.mp hjoints c h
  rw [Bool.and_eq_true, decide_eq_true_eq, Bool.not_eq_true'] at hjoint
  rw [isWordChar_of_lt hjoint.1]
  exact hjoint.2

theorem inWord_of_joint {c : Char} (h : c ∈ joints) : inWord c = true := by
  have hall : joints.all inWord = true := by decide
  exact List.all_eq_true.mp hall c h

/-- The two notions of a word differ in the joints only. -/
theorem mem_joints {c : Char} (hbare : inBareWord c = true) (hword : isWordChar c = false) :
    c ∈ joints := by
  have hstarts : startsWord c = true := inBareWord_eq c ▸ hbare
  have hbound := (toNat_of_startsWord hstarts).2
  have hlast : 'z'.toNat = 0x7a := rfl
  rw [isWordChar_of_lt (by omega)] at hword
  simpa [inBareWord, hword, joints, or_assoc] using hbare

/-- A condition of the text whose name is the end of a longer word of raw text. -/
def Joined (fields : List String) (cs : List Char) (field : String)
    (gap value : List Char) : Prop :=
  ∃ start joint behind tail, cs = start ++ joint :: behind ∧ joint ∈ joints ∧
    Condition fields behind field gap value tail

variable {fields : List String} {words : Words} {entity : Entity} {encoding : Encoding}
  {text : String} {before : Option Char} {cs u v gap value tail : List Char} {field : String}
  {truthy : String}

/-- Words that do not reach from one text into the next are those of each. -/
theorem pieces_append (hu : ∀ c ∈ u.getLast?, inBareWord c = false) (v : List Char) :
    pieces (u ++ v) = pieces u ++ pieces v := by
  induction u with
  | nil => rfl
  | cons c u ih =>
    cases u with
    | nil =>
      have hc := hu c rfl
      simp [pieces, hc]
    | cons d u =>
      have hrest := ih fun e he => hu e (by rwa [List.getLast?_cons_cons])
      have hne : pieces (d :: u) ≠ [] := by
        intro hnil
        have hsource := flatMap_pieces (d :: u)
        rw [hnil] at hsource
        cases hsource
      obtain ⟨p, ps, hp⟩ := List.exists_cons_of_ne_nil hne
      rw [List.cons_append, pieces.eq_2 c (d :: u ++ v), pieces.eq_2 c (d :: u), hrest, hp]
      cases p <;> cases inBareWord c <;> rfl

theorem mentions_of_word (hfields : AreNames fields) (hfield : field ∈ fields)
    (hu : ∀ c ∈ u.getLast?, inBareWord c = false) (hv : ∀ c ∈ v.head?, inBareWord c = false) :
    mentions fields (u ++ (field.toList ++ v)) = true := by
  have hne : field.toList ≠ [] :=
    List.ne_nil_of_length_pos (Nat.zero_lt_of_lt (hfields.isLong field hfield))
  rw [mentions, pieces_append hu, pieces_word hne (hfields.isBare field hfield) hv]
  simp [hfield]

/-- Where no field is a word of the text, nothing is inserted. -/
theorem expand_of_not_mentions (h : mentions fields cs = false) : expand fields truthy cs = cs := by
  have hkept {ps : List Piece} (before : Option Char)
      (hps : ∀ w, Piece.word w ∈ ps → String.ofList w ∉ fields) :
      expandFrom fields truthy before ps = ps.flatMap Piece.source := by
    induction ps generalizing before with
    | nil => rfl
    | cons p ps ih =>
      have hrest (before : Option Char) := ih before fun w hw => hps w (List.mem_cons_of_mem _ hw)
      cases p with
      | other c => simp [expandFrom, hrest, Piece.source]
      | word w =>
        have hw := hps w List.mem_cons_self
        simp [expandFrom, hrest, Piece.source, hw]
  rw [expand, hkept none, flatMap_pieces]
  intro w hw hmem
  have hnot := List.any_eq_false.mp h _ hw
  exact hnot (List.contains_iff_mem.mpr hmem)

theorem Condition.not_bare_behind (h : Condition fields cs field gap value tail) :
    ∀ c ∈ (gap ++ (value ++ tail)).head?, inBareWord c = false := by
  obtain ⟨blanks, sign, blanks', hgap, hblanks, hsign, -⟩ := h.isSign
  intro c hc
  rw [hgap, List.append_assoc, List.cons_append] at hc
  have hout := not_inWord_of_sign hblanks hsign c hc
  rw [inBareWord_eq]
  simp only [inWord, Bool.or_eq_false_iff] at hout
  exact hout.1

/-- A text is settled when its conditions are spelled as they should be, wherever they begin. -/
theorem settled_iff : Settled fields words before cs ↔
    ∀ u v, cs = u ++ v → (lastOf before u).any isWordChar = false → ∀ field gap value tail,
      Condition fields v field gap value tail →
        gap = [':'] ∧ value = words.spell (isTruthy (String.ofList value)) := by
  induction cs generalizing before with
  | nil =>
    refine iff_of_true trivial ?_
    intro u v huv _ field gap value tail hcond
    obtain ⟨-, rfl⟩ := List.append_eq_nil_iff.mp huv.symm
    have hgap := (List.append_eq_nil_iff.mp (List.append_eq_nil_iff.mp hcond.text.symm).2).1
    exact absurd hgap hcond.isSign.ne_nil
  | cons c rest ih =>
    rw [Settled, ih]
    constructor
    · intro h u v huv hu
      obtain ⟨hhead, hrest⟩ := h
      cases u with
      | nil =>
        rw [List.nil_append] at huv
        rw [← huv]
        exact hhead hu
      | cons d u =>
        obtain ⟨rfl, htail⟩ := List.cons.inj huv
        exact hrest u v htail (by rwa [lastOf_cons] at hu)
    · intro h
      refine ⟨h [] (c :: rest) rfl, ?_⟩
      intro u v huv hu
      exact h (c :: u) v (by rw [huv, List.cons_append]) (by rwa [lastOf_cons])

section

variable (hfields : AreNames fields)
include hfields

/-- In a text that mentions no field, a condition where a word can begin is behind a joint. -/
theorem joined_of_not_mentions (hm : mentions fields (u ++ v) = false)
    (hu : (lastOf none u).any isWordChar = false)
    (h : Condition fields v field gap value tail) : Joined fields (u ++ v) field gap value := by
  have hlast : ∃ c ∈ u.getLast?, inBareWord c = true := by
    by_contra hnone
    have hbare : ∀ c ∈ u.getLast?, inBareWord c = false := by
      intro c hc
      rw [Bool.eq_false_iff]
      intro hc'
      exact hnone ⟨c, hc, hc'⟩
    have hmentions := mentions_of_word hfields h.isField hbare h.not_bare_behind
    rw [← h.text, hm] at hmentions
    cases hmentions
  obtain ⟨joint, hjoint, hbare⟩ := hlast
  obtain ⟨start, rfl⟩ := List.getLast?_eq_some_iff.mp hjoint
  have hword : isWordChar joint = false := by simpa [lastOf] using hu
  exact ⟨start, joint, v, tail, by simp, mem_joints hbare hword, h⟩

/-- A text that mentions no field is settled when its joined conditions are spelled as they should
be. -/
theorem settled_iff_joined (hm : mentions fields cs = false) : Settled fields words none cs ↔
    ∀ field gap value, Joined fields cs field gap value →
      gap = [':'] ∧ value = words.spell (isTruthy (String.ofList value)) := by
  rw [settled_iff]
  constructor
  · intro h field gap value hjoined
    obtain ⟨start, joint, behind, tail, rfl, hjoint, hcond⟩ := hjoined
    refine h (start ++ [joint]) behind (by simp) ?_ field gap value tail hcond
    simpa [lastOf] using isWordChar_of_joint hjoint
  · intro h u v huv hu field gap value tail hcond
    rw [huv] at hm h
    exact h field gap value (joined_of_not_mentions hfields hm hu hcond)

/-- A text that mentions no field stays as it is just when its joined conditions are spelled as they
should be. -/
theorem respellPlain_eq_self_iff (hwords : words.Fit fields) (hm : mentions fields cs = false) :
    respellPlain fields words cs = cs ↔ ∀ field gap value, Joined fields cs field gap value →
      gap = [':'] ∧ value = words.spell (isTruthy (String.ofList value)) := by
  rw [← settled_iff_joined hfields hm]
  constructor
  · intro hsame
    have hsettled := settled_respellPlain hfields hwords cs
    rwa [hsame] at hsettled
  · intro hsettled
    rw [respellPlain_of_settled hfields hsettled, expand_of_not_mentions hm]

/-- In a query on declared fields no condition is joined: its name is a whole word. -/
theorem not_joined_of_placed {ts rest : List Symbol} {before : Option Symbol}
    (hs : Spells cs ts) (hquotes : ∀ c ∈ cs, isQuote c = false)
    (hplaced : placed (declaredBy entity) before ts rest = true) :
    ¬ Joined fields cs field gap value := by
  intro hjoined
  obtain ⟨start, joint, behind, tail, rfl, hjoint, hcond⟩ := hjoined
  obtain ⟨blanks, sign, blanks', hgap, hblanks, hsign, -⟩ := hcond.isSign
  have htext : start ++ joint :: behind = (start ++ [joint]) ++
      (field.toList ++ (blanks ++ sign :: (blanks' ++ (value ++ tail)))) := by
    simp [hcond.text, hgap]
  rw [htext] at hs hquotes
  have hstart : ∀ c ∈ (start ++ [joint]).getLast?, inWord c = true → isWordChar c = false := by
    intro c hc _
    obtain rfl : joint = c := by simpa using hc
    exact isWordChar_of_joint hjoint
  obtain ⟨-, -, -, -, -, -, hapart, -⟩ := exists_clause hfields blanks hcond.isField hs
    (fun c hc => hquotes c (List.mem_append_left _ hc)) hplaced hstart hblanks hsign
  -- a token that ends with the name would begin before the joint
  obtain ⟨c, name, hname⟩ := List.exists_cons_of_ne_nil (hcond.name_ne_nil hfields)
  have hc := inWord_of_mem hfields hcond.isField c (hname ▸ List.mem_cons_self)
  have hjoins := hapart joint (by simp) c (by simp [hname])
  rw [joins, inWord_of_joint hjoint, hc] at hjoins
  cases hjoins

/-- No plain stretch of a query on declared fields has a joined condition. -/
theorem forall_not_joined {ts rest : List Symbol} {before : Option Symbol} {ss : List Segment}
    (h : Segmented ss) (hs : Spells (ss.flatMap (·.chars)) ts)
    (hplaced : placed (declaredBy entity) before ts rest = true) :
    ∀ s ∈ ss, s.quoted = false → ∀ field gap value, ¬ Joined fields s.chars field gap value := by
  induction ss generalizing ts before with
  | nil => simp
  | cons s ss ih =>
    obtain ⟨us, vs, rfl, hus, hvs⟩ := h.spells_split hs
    rw [placed_append, Bool.and_eq_true] at hplaced
    rw [List.forall_mem_cons]
    refine ⟨?_, ih h.of_cons hvs hplaced.2⟩
    intro hquoted field gap value
    exact not_joined_of_placed hfields hus (h.isPlain List.mem_cons_self hquoted).2 hplaced.1

end

/-- The encoding of a text that the guard lets pass is the text itself just when every joined
condition outside quotes is spelled as the encoding spells it; there is none in a query on the
fields of the entity. -/
theorem encode_eq_self_iff_joined (encoding : Encoding) {entity : Entity} {text : String}
    (h : needsEncoding entity text = false) :
    (encode encoding entity text = text ↔ ∀ s ∈ segments text.toList, s.quoted = false →
      ∀ field gap value, Joined (entity.namesOfKind .boolean) s.chars field gap value →
        gap = [':'] ∧ value = encoding.words.spell (isTruthy (String.ofList value))) ∧
    ((Verdict.ofText text (some entity)).isValid = true → encode encoding entity text = text) := by
  have hfields := areNames_boolean entity
  have hwords := encoding.fit entity
  have hmentions : ∀ s ∈ segments text.toList, s.quoted = false →
      mentions (entity.namesOfKind .boolean) s.chars = false := by
    intro s hs hquoted
    have hnot := List.any_eq_false.mp h s hs
    simpa [hquoted] using hnot
  have hiff : encode encoding entity text = text ↔ ∀ s ∈ segments text.toList, s.quoted = false →
      ∀ field gap value, Joined (entity.namesOfKind .boolean) s.chars field gap value →
        gap = [':'] ∧ value = encoding.words.spell (isTruthy (String.ofList value)) := by
    have hplain : ∀ cs, IsPlain cs →
        IsPlain (respellPlain (entity.namesOfKind .boolean) encoding.words cs) :=
      fun _ hcs => isPlain_respellPlain hfields hwords.toLegible hcs
    rw [encode, respell_eq, ← String.toList_inj, String.toList_ofList,
      flatMap_respelled_eq_self_iff hplain]
    apply forall₂_congr
    intro s hs
    apply imp_congr_right
    intro hquoted
    exact respellPlain_eq_self_iff hfields hwords (hmentions s hs hquoted)
  refine ⟨hiff, ?_⟩
  intro hvalid
  obtain ⟨q, hq⟩ := Verdict.isValid_iff.mp hvalid
  obtain ⟨ts, hts, hplaced⟩ := exists_placed hq
  rw [← flatMap_segments text.toList] at hts
  apply hiff.mpr
  intro s hs hquoted field gap value hjoined
  exact absurd hjoined (forall_not_joined hfields (segmented_segments _) hts hplaced s hs hquoted
    field gap value)

/-- A field in a value, at the end of a longer word, and in quotes. -/
theorem encode_eq_self_iff_joined_of_quoted_condition :
    let text := "mac_vendor:my-online* AND NOT name:\"online:true\""
    needsEncoding .devices text = false ∧ encode .literal .devices text = text := by
  intro text
  have hguard : needsEncoding .devices text = false := by decide
  have hvalid : (Verdict.ofText text (some .devices)).isValid = true := by decide +kernel
  exact ⟨hguard, (encode_eq_self_iff_joined .literal hguard).2 hvalid⟩

/-- A condition on the end of a longer word is respelled, though the guard sees no field. -/
theorem encode_of_joined_condition :
    needsEncoding .devices "x-online:true" = false ∧
      encode .numeric .devices "x-online:true" = "x-online:1" ∧
      encode .numeric .devices "x-online:true" ≠ "x-online:true" := by
  decide +kernel

end NetQuery.Spelling
