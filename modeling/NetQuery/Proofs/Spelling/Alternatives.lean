import NetQuery.Proofs.Spelling.Parallel
import NetQuery.Proofs.Token.Stretches

namespace NetQuery.Spelling

open Text Lexer

variable {fields : List String} {words words' : Words} {entity : Entity} {text : String}
  {cs : List Char} {ss : List Segment}

theorem expand_eq_insertBehind (hfields : AreNames fields) (truthy : String) (cs : List Char) :
    expand fields truthy cs = insertBehind fields truthy.toList [] cs := by
  rw [expand_eq hfields, insertFrom_eq_insertBehind, insertion_of_not_bare hfields (by simp),
    List.nil_append]

theorem unbroken_nil (fields : List String) (cs : List Char) : Unbroken fields [] cs := by
  intro u v _ _ _
  rw [List.append_nil, lastWord, List.length_reverse, ← u.length_reverse]
  exact (List.takeWhile_prefix inBareWord).length_le

/-- Of two words that a stretch without quotes is put into only the second ones count. -/
theorem respellPlain_in_turn (hfields : AreNames fields) (hwords : words.Legible)
    (hwords' : words'.Legible) (hcs : ∀ c ∈ cs, isWordChar c = true → inBareWord c = true) :
    respellPlain fields words' (respellPlain fields words cs) = respellPlain fields words' cs := by
  have hassigned : ∀ c ∈ assign fields words cs, isWordChar c = true → inBareWord c = true := by
    have hbare : ∀ c ∈ assign fields words cs, (!isWordChar c || inBareWord c) = true := by
      apply forall_mem_assignFrom hfields
      · intro field hfield c hc
        simp [hfields.isBare field hfield c hc]
      · intro truth c hc
        simp [hwords.isBare truth c hc]
      · rw [isWordChar_of_lt (by decide)]
        decide
      · intro c hc
        cases hword : isWordChar c with
        | false => rfl
        | true => exact hcs c hc hword
    intro c hc hword
    simpa [hword] using hbare c hc
  have hassign : Parallel fields words words' ([] : List Char).head? (assign fields words cs)
      (assign fields words' cs) := parallel_assignFrom hfields hwords none cs
  have haligned : Aligned fields [] [] := fun _ _ => rfl
  have hexpand := hassign.insertBehind hfields hwords hwords' (by simp) hassigned haligned
    (unbroken_nil fields _)
  have hagain : assign fields words' (respellPlain fields words cs) =
      respellPlain fields words' cs := by
    simp only [respellPlain, expand_eq_insertBehind hfields]
    exact hexpand.assignFrom_eq hfields hwords
  have htruthy : words'.truthy.toList = words'.spell true := rfl
  rw [respellPlain, hagain, respellPlain, expand_eq hfields, expand_eq hfields, htruthy]
  exact insertFrom_insertFrom hfields (hwords'.isBare true) (hwords'.ne_nil true) ⟨rfl, rfl, rfl⟩

/-- Where stretches are read as tokens, each word character outside quotes is of a word of raw
text. -/
theorem bare_of_spells {ts : List Symbol} (hss : Segmented ss)
    (hs : Spells (ss.flatMap (·.chars)) ts) : ∀ s ∈ ss, s.quoted = false →
      ∀ c ∈ s.chars, isWordChar c = true → inBareWord c = true := by
  induction ss generalizing ts with
  | nil => simp
  | cons s ss ih =>
    obtain ⟨us, vs, -, hus, hvs⟩ := hss.spells_split hs
    refine List.forall_mem_cons.mpr ⟨?_, ih hss.of_cons hvs⟩
    intro hquoted c hc
    have hplain := (hss.isPlain List.mem_cons_self hquoted).2
    exact bare_of_isPlain (hus.isPlain hplain c hc)

/-- Of two words that a text is put into only the second ones count. -/
theorem respell_in_turn {tokens : Tokens} (h : tokenize text = .ok tokens) (entity : Entity)
    (hwords : words.Legible) (hwords' : words'.Legible) :
    respell entity words' (respell entity words text) = respell entity words' text := by
  have hfields := areNames_boolean entity
  have hplain : ∀ cs, IsPlain cs →
      IsPlain (respellPlain (entity.namesOfKind .boolean) words cs) :=
    fun _ hcs => isPlain_respellPlain hfields hwords hcs
  have hspells : Spells ((segments text.toList).flatMap (·.chars)) tokens.symbols := by
    rw [flatMap_segments]
    exact ⟨tokens, h, rfl⟩
  have hbare := bare_of_spells (segmented_segments text.toList) hspells
  have hstretch : ∀ s ∈ segments text.toList,
      ((s.respelled (respellPlain (entity.namesOfKind .boolean) words)).respelled
        (respellPlain (entity.namesOfKind .boolean) words')) =
      s.respelled (respellPlain (entity.namesOfKind .boolean) words') := by
    intro s hs
    unfold Segment.respelled
    cases hquoted : s.quoted with
    | true => simp [hquoted]
    | false => simp [respellPlain_in_turn hfields hwords hwords' (hbare s hs hquoted)]
  rw [respell_eq, respell_eq entity words text, String.toList_ofList, segments_respelled hplain,
    List.map_map, respell_eq]
  congr 2
  exact List.map_congr_left hstretch

/-- The alternatives of a text are the text in each of the words to fall back on. -/
theorem mem_alternatives {s : String} : s ∈ alternatives entity text ↔
    ∃ words ∈ alternativeWords, s = respell entity words text := by
  have hfold (found seen : List String) :
      s ∈ found.foldl (fun seen s => if seen.contains s then seen else seen ++ [s]) seen ↔
        s ∈ seen ∨ s ∈ found := by
    induction found generalizing seen with
    | nil => simp
    | cons t found ih =>
      rw [List.foldl_cons, ih]
      split
      · next hseen =>
        have ht : t ∈ seen := by simpa using hseen
        constructor
        · intro hs
          rcases hs with hs | hs
          · exact .inl hs
          · exact .inr (List.mem_cons_of_mem t hs)
        · intro hs
          rcases hs with hs | hs
          · exact .inl hs
          · rcases List.mem_cons.mp hs with rfl | hs
            · exact .inl ht
            · exact .inr hs
      · simp [or_assoc]
  rw [alternatives, hfold]
  simp [eq_comm]

/-- Alternative spellings of one text are equivalent. Where a text is read as tokens, putting it
into other words for truth values after it was put into some is putting it into the other words at
once; so each of its alternatives is encoded like the text. -/
theorem alternatives_agree {tokens : Tokens} (h : tokenize text = .ok tokens) (entity : Entity) :
    (∀ words ∈ Words.all, ∀ words' ∈ Words.all,
      respell entity words' (respell entity words text) = respell entity words' text) ∧
    ∀ encoding, ∀ s ∈ alternatives entity text,
      encode encoding entity s = encode encoding entity text := by
  have hturn {words words' : Words} (hwords : words ∈ Words.all) (hwords' : words' ∈ Words.all) :
      respell entity words' (respell entity words text) = respell entity words' text :=
    respell_in_turn h entity (Words.legible_of_mem hwords) (Words.legible_of_mem hwords')
  constructor
  · intro words hwords words' hwords'
    exact hturn hwords hwords'
  · intro encoding s hs
    obtain ⟨words, hwords, rfl⟩ := mem_alternatives.mp hs
    exact hturn (List.mem_cons_of_mem _ hwords) encoding.words_mem

/-- A condition with blanks, a name that stands alone, and a value that a word goes on behind. -/
theorem alternatives_agree_of_name_alone :
    let text := "online = On AND (ip_reserved OR NOT online:no-x)"
    let other := "online:on AND (ip_reserved:on OR NOT online:off-x)"
    let encoded := "online:1 AND (ip_reserved:1 OR NOT online:0-x)"
    (∃ tokens, tokenize text = .ok tokens) ∧
      respell .devices ⟨"on", "off"⟩ text = other ∧
      respell .devices ⟨"1", "0"⟩ other = encoded ∧
      other ∈ alternatives .devices text ∧
      ∀ s ∈ alternatives .devices text, encode .numeric .devices s = encoded := by
  intro text other encoded
  obtain ⟨tokens, htokens⟩ : ∃ tokens, tokenize text = .ok tokens := by
    have hread : (tokenize text).isOk = true := by decide +kernel
    cases h : tokenize text with
    | ok tokens => exact ⟨tokens, rfl⟩
    | error e =>
      rw [h] at hread
      cases hread
  have hother : respell .devices ⟨"on", "off"⟩ text = other := by decide +kernel
  have hencoded : respell .devices ⟨"1", "0"⟩ text = encoded := by decide +kernel
  obtain ⟨hturn, halternatives⟩ := alternatives_agree htokens .devices
  refine ⟨⟨tokens, htokens⟩, hother, ?_, ?_, ?_⟩
  · rw [← hother, ← hencoded]
    exact hturn ⟨"on", "off"⟩ (by decide) ⟨"1", "0"⟩ (by decide)
  · rw [mem_alternatives]
    exact ⟨⟨"on", "off"⟩, by decide, hother.symm⟩
  · intro s hs
    rw [halternatives .numeric s hs]
    exact hencoded

end NetQuery.Spelling
