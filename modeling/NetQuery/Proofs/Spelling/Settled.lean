import NetQuery.Proofs.Spelling.Condition

namespace NetQuery.Spelling

open Text

def Words.spell (words : Words) (truth : Bool) : List Char :=
  (if truth then words.truthy else words.falsy).toList

/-- Words that are read as the truth values that they spell. -/
structure Words.Legible (words : Words) : Prop where
  isTruth : ∀ truth, IsTruth (words.spell truth)
  isTruthy : ∀ truth, isTruthy (String.ofList (words.spell truth)) = truth
  isBare : ∀ truth, ∀ c ∈ words.spell truth, inBareWord c = true
  isWhole : ∀ value, IsTruth value → words.spell true <+: value → value = words.spell true

/-- Words that are read as the truth values that they spell, and with which no name of a field
begins. -/
structure Words.Fit (words : Words) (fields : List String) : Prop extends words.Legible where
  notName : ∀ truth, ∀ field ∈ fields, ¬ words.spell truth <+: field.toList

variable {fields : List String} {words : Words} {before before' : Option Char}
  {cs rest u v gap value tail : List Char} {field : String} {c : Char}

/-- A truth word is one of the words up to the case of letters. -/
theorem isTruth_iff_folded : IsTruth value ↔
    ∃ word ∈ truthWords, word.toList.map foldCase = value.map foldCase := by
  have hfolded (word : List Char) :
      List.Forall₂ (fun w c => sameLetter w c = true) word value ↔
        word.map foldCase = value.map foldCase := by
    rw [← List.forall₂_eq_eq_eq, List.forall₂_map_left_iff, List.forall₂_map_right_iff]
    simp [sameLetter]
  simp only [IsTruth, hfolded]

theorem map_foldCase_truthWord {word : String} (hword : word ∈ truthWords) :
    word.toList.map foldCase = word.toList := by
  rw [List.map_congr_left fun w hw => (letter_of_truthWord hword hw).2]
  exact List.map_id' _

/-- A truth word with which no other begins. -/
theorem eq_of_prefix_of_isTruth {pre : List Char}
    (h : ∀ word ∈ truthWords, word.toList.take pre.length = pre.map foldCase →
      word.toList.length = pre.length)
    (htruth : IsTruth value) (hpre : pre <+: value) : value = pre := by
  obtain ⟨word, hword, hfolded⟩ := isTruth_iff_folded.mp htruth
  obtain ⟨behind, rfl⟩ := hpre
  rw [map_foldCase_truthWord hword] at hfolded
  have hstart := congrArg (List.take pre.length) hfolded
  rw [← List.map_take, List.take_left] at hstart
  have hlength := congrArg List.length hfolded
  rw [List.length_map, h word hword hstart, List.length_append] at hlength
  obtain rfl : behind = [] := List.eq_nil_of_length_eq_zero (by omega)
  exact List.append_nil pre

/-- The words that texts are put into: those of the backend, and those to fall back on. -/
def Words.all : List Words :=
  Encoding.numeric.words :: alternativeWords

theorem Words.legible_of_mem (h : words ∈ Words.all) : words.Legible := by
  have hread : ∀ words ∈ Words.all, ∀ truth,
      lowerAscii (String.ofList (words.spell truth)) ∈ truthWords ∧
        isTruthy (String.ofList (words.spell truth)) = truth ∧
        (words.spell truth).all (fun c => inBareWord c && decide (c.toNat < 0xb5)) = true := by
    decide
  have hwhole : ∀ words ∈ Words.all, ∀ word ∈ truthWords,
      word.toList.take (words.spell true).length = (words.spell true).map Char.toLower →
        word.toList.length = (words.spell true).length := by
    decide
  have hfolded (truth : Bool) :
      (words.spell truth).map foldCase = (words.spell truth).map Char.toLower := by
    refine List.map_congr_left fun c hc => foldCase_of_lt ?_
    have hchar := List.all_eq_true.mp (hread words h truth).2.2 c hc
    rw [Bool.and_eq_true, decide_eq_true_eq] at hchar
    exact hchar.2
  refine ⟨fun truth => ?_, fun truth => ?_, fun truth c hc => ?_, fun value => ?_⟩
  · have hlower := (hread words h truth).1
    refine isTruth_iff_folded.mpr ⟨_, hlower, ?_⟩
    rw [map_foldCase_truthWord hlower, hfolded, lowerAscii, String.toList_ofList,
      String.toList_ofList]
  · exact (hread words h truth).2.1
  · have hchar := List.all_eq_true.mp (hread words h truth).2.2 c hc
    exact (Bool.and_eq_true_iff.mp hchar).1
  · exact eq_of_prefix_of_isTruth (hfolded true ▸ hwhole words h)

theorem Encoding.words_mem (encoding : Encoding) : encoding.words ∈ Words.all := by
  cases encoding <;> decide

theorem Encoding.fit (encoding : Encoding) (entity : Entity) :
    encoding.words.Fit (entity.namesOfKind .boolean) := by
  refine ⟨Words.legible_of_mem encoding.words_mem, fun truth => ?_⟩
  cases encoding <;> cases truth <;> cases entity <;> decide

/-- A run in front of a text is a part of the run that the text begins with. -/
theorem prefix_of_run {p : Char → Bool} (hu : ∀ c ∈ u, p c = true)
    (hrest : ∀ c ∈ rest.head?, p c = false) (h : u ++ v = cs ++ rest) : u <+: cs := by
  obtain ⟨as, rfl, -⟩ | ⟨bs, rfl, hrest'⟩ := List.append_eq_append_iff.mp h
  · exact List.prefix_append u as
  · cases bs with
    | nil => simp
    | cons b bs =>
      have hb := hrest b (by simp [hrest'])
      rw [hu b (by simp)] at hb
      cases hb

/-- No word begins at a character of the text. -/
def startless : Option Char → List Char → Bool
  | _, [] => true
  | before, c :: rest => (!isWordChar c || before.any isWordChar) && startless (some c) rest

theorem lastOf_of_forall {b : Bool} (h : ∀ c ∈ u, isWordChar c = b) (hne : u ≠ []) :
    (lastOf before u).any isWordChar = b := by
  rw [lastOf, List.getLast?_eq_some_getLast hne]
  exact h _ (List.getLast_mem hne)

theorem startless_append :
    startless before (u ++ v) = (startless before u && startless (lastOf before u) v) := by
  induction u generalizing before with
  | nil => simp [startless]
  | cons c u ih => simp [startless, ih, Bool.and_assoc]

theorem startless_of_isWord (before : Option Char) (hbefore : before.any isWordChar = true)
    (h : ∀ c ∈ u, isWordChar c = true) : startless before u = true := by
  induction u generalizing before with
  | nil => rfl
  | cons c u ih =>
    obtain ⟨hc, hu⟩ := List.forall_mem_cons.mp h
    simp [startless, hbefore, ih (some c) hc hu]

theorem startless_of_notWord (h : ∀ c ∈ u, isWordChar c = false) : startless before u = true := by
  induction u generalizing before with
  | nil => rfl
  | cons c u ih =>
    obtain ⟨hc, hu⟩ := List.forall_mem_cons.mp h
    simp [startless, hc, ih hu]

theorem assignment?_congr (h : before.any isWordChar = before'.any isWordChar) :
    assignment? fields before cs = assignment? fields before' cs := by
  unfold assignment? isWordBoundary
  rw [h]

/-- Respelling looks at the character before the text only for whether it is of a word. -/
theorem assignFrom_congr (h : before.any isWordChar = before'.any isWordChar) :
    assignFrom fields words before 0 cs = assignFrom fields words before' 0 cs := by
  cases cs with
  | nil => rfl
  | cons c rest => simp only [assignFrom, assignment?_congr h]

/-- What is already dealt with is left out. -/
theorem assignFrom_skip (fields : List String) (words : Words) (before : Option Char)
    (cs : List Char) (skip : Nat) : assignFrom fields words before skip cs =
    assignFrom fields words (lastOf before (cs.take skip)) 0 (cs.drop skip) := by
  induction cs generalizing skip before with
  | nil => cases skip <;> rfl
  | cons c rest ih =>
    cases skip with
    | zero => rfl
    | succ skip => simp only [assignFrom, ih, List.take_succ_cons, List.drop_succ_cons, lastOf_cons]

section

variable (hfields : AreNames fields)
include hfields

theorem Condition.name_ne_nil (h : Condition fields cs field gap value rest) : field.toList ≠ [] :=
  List.ne_nil_of_length_pos (Nat.zero_lt_of_lt (hfields.isLong field h.isField))

/-- A condition where a word can begin is respelled as a whole. -/
theorem assignFrom_condition (hbefore : before.any isWordChar = false)
    (h : Condition fields cs field gap value tail) :
    assignFrom fields words before 0 cs =
      field.toList ++ ':' :: (words.spell (isTruthy (String.ofList value)) ++
        assignFrom fields words (lastOf none value) 0 tail) := by
  have hfound := (assignment?_eq_some hfields).mpr ⟨hbefore, field, gap, value, tail, h, rfl⟩
  have hvalue : value ≠ [] := List.ne_nil_of_length_pos h.isTruth.length_le.1
  have htext : cs = (field.toList ++ (gap ++ value)) ++ tail := by simp [h.text]
  have hlast : (lastOf before (field.toList ++ (gap ++ value))).any isWordChar =
      (lastOf none value).any isWordChar := by
    rw [lastOf_append, lastOf_append, lastOf_of_forall h.isTruth.isWord hvalue,
      lastOf_of_forall h.isTruth.isWord hvalue]
  have hlength : cs.length - tail.length = (field.toList ++ (gap ++ value)).length := by
    rw [htext, List.length_append, Nat.add_sub_cancel]
  obtain ⟨n, hn⟩ : ∃ n, (field.toList ++ (gap ++ value)).length = n + 1 :=
    Nat.exists_eq_add_one.mpr (List.length_pos_of_ne_nil (by simp [hvalue]))
  have hskip := assignFrom_skip fields words before cs (n + 1)
  rw [← hn, htext, List.take_left, List.drop_left, ← htext, assignFrom_congr hlast] at hskip
  obtain ⟨c, rest, rfl⟩ : ∃ c rest, cs = c :: rest :=
    List.exists_cons_of_ne_nil (by simp [htext, hvalue])
  rw [hn] at hskip hlength
  simp only [assignFrom] at hskip
  simp only [assignFrom, hfound, hlength, Nat.add_sub_cancel, hskip]
  simp [Assignment.written, Words.spell]

/-- A text begins with a condition where a word can begin, or its first character is copied. -/
theorem assignFrom_cons (words : Words) (before : Option Char) (c : Char) (rest : List Char) :
    (before.any isWordChar = false ∧
      ∃ field gap value tail, Condition fields (c :: rest) field gap value tail) ∨
    ((before.any isWordChar = false →
        ∀ field gap value tail, ¬ Condition fields (c :: rest) field gap value tail) ∧
      assignFrom fields words before 0 (c :: rest) =
        c :: assignFrom fields words (some c) 0 rest) := by
  cases h : assignment? fields before (c :: rest) with
  | some a =>
    obtain ⟨hbefore, field, gap, value, tail, h, -⟩ := (assignment?_eq_some hfields).mp h
    exact .inl ⟨hbefore, field, gap, value, tail, h⟩
  | none =>
    refine .inr ⟨fun hbefore field gap value tail hcond => ?_, by simp only [assignFrom, h]⟩
    rw [(assignment?_eq_some hfields).mpr ⟨hbefore, field, gap, value, tail, hcond, rfl⟩] at h
    cases h

theorem not_condition_of_startless (h : startless before (c :: u) = true)
    (hbefore : before.any isWordChar = false) :
    ¬ Condition fields (c :: rest) field gap value tail := by
  intro hcond
  have hword := hcond.isWord_head hfields
  simp_all [startless]

theorem head?_assignFrom (words : Words) (before : Option Char) (cs : List Char) :
    (assignFrom fields words before 0 cs).head? = cs.head? := by
  cases cs with
  | nil => rfl
  | cons c rest =>
    obtain ⟨hbefore, field, gap, value, tail, h⟩ | ⟨-, hcopy⟩ :=
      assignFrom_cons hfields words before c rest
    · rw [assignFrom_condition hfields hbefore h]
      obtain ⟨f, name, hname⟩ := List.exists_cons_of_ne_nil (h.name_ne_nil hfields)
      simp [h.text, hname]
    · simp [hcopy]

/-- What is printed where no word begins was there before. -/
theorem exists_of_assignFrom_append (hu : startless before u = true)
    (h : assignFrom fields words before 0 cs = u ++ v) :
    ∃ rest, cs = u ++ rest ∧ v = assignFrom fields words (lastOf before u) 0 rest := by
  induction u generalizing before cs with
  | nil => exact ⟨cs, rfl, h.symm⟩
  | cons c u ih =>
    obtain ⟨rest, rfl⟩ : ∃ rest, cs = c :: rest := by
      have hhead := head?_assignFrom hfields words before cs
      rw [h] at hhead
      exact List.head?_eq_some_iff.mp hhead.symm
    have hstart := hu
    simp only [startless, Bool.and_eq_true] at hu
    obtain ⟨hbefore, field, gap, value, tail, hcond⟩ | ⟨-, hcopy⟩ :=
      assignFrom_cons hfields words before c rest
    · exact absurd hcond (not_condition_of_startless hfields hstart hbefore)
    · rw [hcopy, List.cons_append] at h
      obtain ⟨rest', rfl, hv⟩ := ih hu.2 (List.cons.inj h).2
      exact ⟨rest', rfl, by rw [hv, lastOf_cons]⟩

end

/-- Every condition of the text is spelled with a colon, no blanks and the given words. -/
def Settled (fields : List String) (words : Words) : Option Char → List Char → Prop
  | _, [] => True
  | before, c :: rest =>
    (before.any isWordChar = false → ∀ field gap value tail,
      Condition fields (c :: rest) field gap value tail →
        gap = [':'] ∧ value = words.spell (isTruthy (String.ofList value))) ∧
    Settled fields words (some c) rest

theorem settled_congr (h : before.any isWordChar = before'.any isWordChar) :
    Settled fields words before cs ↔ Settled fields words before' cs := by
  cases cs with
  | nil => rfl
  | cons c rest => simp only [Settled, h]

section

variable (hfields : AreNames fields)
include hfields

/-- Characters at which no word begins are settled whatever comes behind them. -/
theorem Settled.append (hu : startless before u = true)
    (h : Settled fields words (lastOf before u) v) : Settled fields words before (u ++ v) := by
  induction u generalizing before with
  | nil => exact h
  | cons c u ih =>
    have hstart := hu
    simp only [startless, Bool.and_eq_true] at hu
    refine ⟨fun hbefore field gap value tail hcond => ?_, ih hu.2 (by simpa using h)⟩
    exact absurd hcond (not_condition_of_startless hfields hstart hbefore)

theorem assignFrom_of_settled (skip : Nat) (h : Settled fields words before cs) :
    assignFrom fields words before skip cs = cs.drop skip := by
  induction cs generalizing before skip with
  | nil => cases skip <;> rfl
  | cons c rest ih =>
    obtain ⟨hhead, hrest⟩ := h
    cases skip with
    | succ skip => exact ih skip hrest
    | zero =>
      simp only [assignFrom]
      split
      · next a ha =>
        obtain ⟨hbefore, field, gap, value, tail, hcond, rfl⟩ := (assignment?_eq_some hfields).mp ha
        obtain ⟨rfl, hvalue⟩ := hhead hbefore field gap value tail hcond
        have htext : c :: rest = (field.toList ++ ':' :: value) ++ tail := by simp [hcond.text]
        have hwritten : (Assignment.mk field (isTruthy (String.ofList value))
            ((c :: rest).length - tail.length)).written words = field.toList ++ ':' :: value := by
          rw [Assignment.written, ← Words.spell, ← hvalue]
        have hlength :
            (c :: rest).length - tail.length = (field.toList ++ ':' :: value).length := by
          rw [htext, List.length_append, Nat.add_sub_cancel]
        obtain ⟨n, hn⟩ : ∃ n, (field.toList ++ ':' :: value).length = n + 1 :=
          Nat.exists_eq_add_one.mpr (List.length_pos_of_ne_nil (by simp))
        rw [hwritten, ih _ hrest, hlength, hn, Nat.add_sub_cancel,
          ← List.drop_succ_cons (a := c), ← hn, htext, List.drop_left, List.drop_zero]
      · rw [ih 0 hrest, List.drop_zero, List.drop_zero]

/-- Truth words are no names of fields. -/
theorem IsTruth.ne_name (h : IsTruth value) (hfield : field ∈ fields) : value ≠ field.toList := by
  intro heq
  have := h.length_le.2
  have := hfields.isLong field hfield
  rw [heq] at *
  omega

/-- A word with which no name begins, in front of a settled text, is settled. -/
theorem Settled.word (hu : ∀ c ∈ u, isWordChar c = true)
    (hname : ∀ field ∈ fields, ¬ u <+: field.toList)
    (h : Settled fields words (lastOf before u) v) : Settled fields words before (u ++ v) := by
  cases u with
  | nil => exact h
  | cons c u =>
    obtain ⟨hc, hu'⟩ := List.forall_mem_cons.mp hu
    refine ⟨fun _ field gap value tail hcond => ?_, ?_⟩
    · exact absurd (prefix_of_run hu hcond.ends_name hcond.text) (hname field hcond.isField)
    · exact Settled.append hfields (startless_of_isWord _ (by simpa using hc) hu')
        (by simpa using h)

/-- A condition that is spelled as it should be, in front of a settled text, is settled. -/
theorem Settled.condition (hwords : words.Fit fields) (hfield : field ∈ fields) (truth : Bool)
    (hends : EndsRun rest)
    (h : Settled fields words (lastOf (some ':') (words.spell truth)) rest) :
    Settled fields words before (field.toList ++ ':' :: (words.spell truth ++ rest)) := by
  have hcolon : ∀ c ∈ [':'], isWordChar c = false :=
    List.forall_mem_singleton.mpr (isWordChar_of_lt (by decide))
  have hwritten : Condition fields (field.toList ++ ':' :: (words.spell truth ++ rest)) field [':']
      (words.spell truth) rest :=
    ⟨rfl, hfield, ⟨[], ':', [], rfl, by simp⟩, hwords.isTruth truth, hends⟩
  have hword := hfields.isWord field hfield
  obtain ⟨f, name, hname⟩ := List.exists_cons_of_ne_nil (hwritten.name_ne_nil hfields)
  rw [hname] at hwritten hword ⊢
  obtain ⟨hf, hrun⟩ := List.forall_mem_cons.mp hword
  refine ⟨fun _ field gap value tail hcond => ?_, ?_⟩
  · obtain ⟨-, rfl, rfl, -⟩ := hwritten.unique hfields hcond
    exact ⟨rfl, by rw [hwords.isTruthy]⟩
  · exact Settled.append hfields (startless_of_isWord _ (by simpa using hf) hrun)
      (Settled.append (u := [':']) hfields (startless_of_notWord hcolon)
        (Settled.word hfields (hwords.isTruth truth).isWord (hwords.notName truth) h))

/-- Where the conditions of a text are respelled, a condition of the outcome begins only where one
of the text does. -/
theorem exists_condition_of_assignFrom
    (hcopy : assignFrom fields words before 0 (c :: rest) =
      c :: assignFrom fields words (some c) 0 rest)
    (h : Condition fields (assignFrom fields words before 0 (c :: rest)) field gap value tail) :
    ∃ tail, Condition fields (c :: rest) field gap value tail := by
  have hword := hfields.isWord field h.isField
  obtain ⟨f, name, hname⟩ := List.exists_cons_of_ne_nil (h.name_ne_nil hfields)
  have htext := hcopy.symm.trans h.text
  rw [hname, List.cons_append, List.cons.injEq, ← List.append_assoc] at htext
  rw [hname] at hword
  obtain ⟨rfl, htext⟩ := htext
  obtain ⟨hc, hrun⟩ := List.forall_mem_cons.mp hword
  -- the name and the sign are copied, for no word begins in them
  have hstartless : startless (some c) (name ++ gap) = true := by
    rw [startless_append, startless_of_isWord _ (by simpa using hc) hrun,
      startless_of_notWord h.isSign.notWord]
    rfl
  obtain ⟨behind, rfl, hbehind⟩ := exists_of_assignFrom_append hfields hstartless htext
  have hgap : (lastOf (some c) (name ++ gap)).any isWordChar = false := by
    rw [lastOf_append, lastOf_of_forall h.isSign.notWord h.isSign.ne_nil]
  obtain ⟨v, value, rfl⟩ := List.exists_cons_of_ne_nil
    (List.ne_nil_of_length_pos h.isTruth.length_le.1)
  obtain ⟨hv, hvalue⟩ := List.forall_mem_cons.mp h.isTruth.isWord
  have hhead := head?_assignFrom hfields words (lastOf (some c) (name ++ gap)) behind
  rw [← hbehind] at hhead
  obtain ⟨behind, rfl⟩ := List.head?_eq_some_iff.mp hhead.symm
  obtain ⟨hbefore', field', gap', value', tail', hcond⟩ | ⟨-, hcopy'⟩ :=
    assignFrom_cons hfields words (lastOf (some c) (name ++ gap)) v behind
  · -- a condition in the place of the truth word would begin with a name
    rw [assignFrom_condition hfields hbefore' hcond] at hbehind
    have hends : EndsRun (':' :: (words.spell (isTruthy (String.ofList value')) ++
        assignFrom fields words (lastOf none value') 0 tail')) := by
      rintro c ⟨⟩
      exact isWordChar_of_lt (by decide)
    obtain ⟨hvalue', -⟩ := run_unique h.isTruth.isWord (hfields.isWord field' hcond.isField) h.ends
      hends hbehind
    exact absurd hvalue' (h.isTruth.ne_name hfields hcond.isField)
  · rw [hcopy', List.cons_append, List.cons.injEq] at hbehind
    obtain ⟨tail', rfl, htail⟩ := exists_of_assignFrom_append hfields
      (startless_of_isWord _ (by simpa using hv) hvalue) hbehind.2.symm
    refine ⟨tail', ⟨?_, h.isField, h.isSign, h.isTruth, ?_⟩⟩
    · rw [hname]
      simp
    · have hends := h.ends
      rw [htail] at hends
      intro c hc
      rw [← head?_assignFrom hfields words] at hc
      exact hends c hc

/-- Respelling the conditions of a text leaves a settled text. -/
theorem settled_assignFrom (hwords : words.Fit fields) (before : Option Char) (cs : List Char) :
    Settled fields words before (assignFrom fields words before 0 cs) := by
  induction hn : cs.length using Nat.strongRecOn generalizing before cs with
  | ind n ih =>
    subst hn
    cases cs with
    | nil => trivial
    | cons c rest =>
      obtain ⟨hbefore, field, gap, value, tail, hcond⟩ | ⟨hnone, hcopy⟩ :=
        assignFrom_cons hfields words before c rest
      · have hlength : tail.length < (c :: rest).length := by
          have := List.length_pos_of_ne_nil (hcond.name_ne_nil hfields)
          simp only [hcond.text, List.length_append]
          omega
        have hends : EndsRun (assignFrom fields words (lastOf none value) 0 tail) := by
          intro c hc
          rw [head?_assignFrom hfields] at hc
          exact hcond.ends c hc
        have hlast : (lastOf none value).any isWordChar =
            (lastOf (some ':') (words.spell (isTruthy (String.ofList value)))).any isWordChar := by
          have hspelled := hwords.isTruth (isTruthy (String.ofList value))
          rw [lastOf_of_forall hcond.isTruth.isWord
              (List.ne_nil_of_length_pos hcond.isTruth.length_le.1),
            lastOf_of_forall hspelled.isWord (List.ne_nil_of_length_pos hspelled.length_le.1)]
        rw [assignFrom_condition hfields hbefore hcond]
        exact Settled.condition hfields hwords hcond.isField _ hends
          ((settled_congr hlast).mp (ih _ hlength _ _ rfl))
      · rw [hcopy]
        refine ⟨fun hbefore field gap value tail hcond => ?_, ih _ (by simp) _ _ rfl⟩
        rw [← hcopy] at hcond
        obtain ⟨tail, hcond⟩ := exists_condition_of_assignFrom hfields hcopy hcond
        exact absurd hcond (hnone hbefore field gap value tail)

end

end NetQuery.Spelling
