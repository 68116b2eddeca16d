import NetQuery.Proofs.Spelling.Idempotence

namespace NetQuery.Spelling

open Text

/-- Two texts, behind a character, that are alike but for the words of their conditions. Characters
that are copied begin no condition of the first text. -/
inductive Parallel (fields : List String) (words words' : Words) :
    Option Char → List Char → List Char → Prop where
  | nil {before : Option Char} : Parallel fields words words' before [] []
  | copied {before : Option Char} {c : Char} {rest rest' : List Char}
      (hnone : before.any isWordChar = false → ∀ field gap value tail,
        ¬ Condition fields (c :: rest) field gap value tail)
      (hrest : Parallel fields words words' (some c) rest rest') :
      Parallel fields words words' before (c :: rest) (c :: rest')
  | spelled {before : Option Char} {field : String} {rest rest' : List Char} (truth : Bool)
      (hbefore : before.any isWordChar = false) (hfield : field ∈ fields) (hends : EndsRun rest)
      (hrest : Parallel fields words words' (lastOf (some ':') (words.spell truth)) rest rest') :
      Parallel fields words words' before
        (field.toList ++ ':' :: (words.spell truth ++ rest))
        (field.toList ++ ':' :: (words'.spell truth ++ rest'))

variable {fields : List String} {words words' : Words} {before before' : Option Char}
  {text text' u v rest rest' past past' : List Char} {field : String} {c : Char}

theorem Parallel.congr (h : Parallel fields words words' before text text')
    (hbefore : before.any isWordChar = before'.any isWordChar) :
    Parallel fields words words' before' text text' := by
  cases h with
  | nil => exact .nil
  | copied hnone hrest =>
    rw [hbefore] at hnone
    exact .copied hnone hrest
  | spelled truth hb hfield hends hrest =>
    rw [hbefore] at hb
    exact .spelled truth hb hfield hends hrest

/-- Within a word no condition begins. -/
theorem Parallel.exists_of_word (hbefore : before.any isWordChar = true)
    (hu : ∀ c ∈ u, isWordChar c = true)
    (h : Parallel fields words words' before (u ++ v) text') :
    ∃ v', text' = u ++ v' ∧ Parallel fields words words' (lastOf before u) v v' := by
  induction u generalizing before text' with
  | nil => exact ⟨text', rfl, h⟩
  | cons c u ih =>
    obtain ⟨hc, hu⟩ := List.forall_mem_cons.mp hu
    rw [List.cons_append] at h
    generalize htext : c :: (u ++ v) = text at h
    cases h with
    | nil => cases htext
    | copied _ hrest =>
      obtain ⟨rfl, rfl⟩ := List.cons.inj htext
      obtain ⟨v', rfl, hv⟩ := ih (by simpa using hc) hu hrest
      exact ⟨v', rfl, by simpa using hv⟩
    | spelled _ hb =>
      rw [hb] at hbefore
      cases hbefore

theorem Words.Legible.ne_nil (hwords : words.Legible) (truth : Bool) : words.spell truth ≠ [] :=
  List.ne_nil_of_length_pos (hwords.isTruth truth).length_le.1

theorem lastOf_spell (hwords : words.Legible) (before : Option Char) (truth : Bool) :
    (lastOf before (words.spell truth)).any isWordChar = true :=
  lastOf_of_forall (hwords.isTruth truth).isWord (hwords.ne_nil truth)

theorem condition_spelled (hwords : words.Legible) (hfield : field ∈ fields) (truth : Bool)
    (hends : EndsRun rest) : Condition fields (field.toList ++ ':' :: (words.spell truth ++ rest))
      field [':'] (words.spell truth) rest :=
  ⟨rfl, hfield, ⟨[], ':', [], rfl, by simp⟩, hwords.isTruth truth, hends⟩

section

variable (hfields : AreNames fields)
include hfields

theorem AreNames.ne_nil (hfield : field ∈ fields) : field.toList ≠ [] :=
  List.ne_nil_of_length_pos (Nat.zero_lt_of_lt (hfields.isLong field hfield))

theorem Parallel.head?_eq (h : Parallel fields words words' before text text') :
    text.head? = text'.head? := by
  cases h with
  | nil => rfl
  | copied => rfl
  | spelled _ _ hfield =>
    obtain ⟨f, name, hname⟩ := List.exists_cons_of_ne_nil (hfields.ne_nil hfield)
    rw [hname]
    rfl

/-- Respelling one of two parallel texts in the words of the other gives the other. -/
theorem Parallel.assignFrom_eq (hwords : words.Legible)
    (h : Parallel fields words words' before text text') :
    assignFrom fields words' before 0 text = text' := by
  induction h with
  | nil => rfl
  | @copied before c rest rest' hnone _ ih =>
    obtain ⟨hbefore, field, gap, value, tail, hcond⟩ | ⟨-, hcopy⟩ :=
      assignFrom_cons hfields words' before c rest
    · exact absurd hcond (hnone hbefore field gap value tail)
    · rw [hcopy, ih]
  | @spelled before field rest rest' truth hbefore hfield hends _ ih =>
    have hlast : (lastOf none (words.spell truth)).any isWordChar =
        (lastOf (some ':') (words.spell truth)).any isWordChar := by
      rw [lastOf_spell hwords, lastOf_spell hwords]
    rw [assignFrom_condition hfields hbefore (condition_spelled hwords hfield truth hends),
      hwords.isTruthy, assignFrom_congr hlast, ih]

/-- Respelling the conditions of one text in two ways leaves parallel texts. -/
theorem parallel_assignFrom (hwords : words.Legible) (before : Option Char) (cs : List Char) :
    Parallel fields words words' before (assignFrom fields words before 0 cs)
      (assignFrom fields words' before 0 cs) := by
  induction hn : cs.length using Nat.strongRecOn generalizing before cs with
  | ind n ih =>
    subst hn
    cases cs with
    | nil => exact .nil
    | cons c rest =>
      obtain ⟨hbefore, field, gap, value, tail, hcond⟩ | ⟨hnone, hcopy⟩ :=
        assignFrom_cons hfields words before c rest
      · have hlength : tail.length < (c :: rest).length := by
          have := List.length_pos_of_ne_nil (hcond.name_ne_nil hfields)
          simp only [hcond.text, List.length_append]
          omega
        have hends : EndsRun (assignFrom fields words (lastOf none value) 0 tail) := by
          intro c hc
          rw [head?_assignFrom hfields] at hc
          exact hcond.ends c hc
        rw [assignFrom_condition hfields hbefore hcond, assignFrom_condition hfields hbefore hcond]
        refine .spelled _ hbefore hcond.isField hends ((ih _ hlength _ tail rfl).congr ?_)
        rw [lastOf_spell hwords, lastOf_of_forall hcond.isTruth.isWord
          (List.ne_nil_of_length_pos hcond.isTruth.length_le.1)]
      · obtain ⟨hbefore, field, gap, value, tail, hcond⟩ | ⟨-, hcopy'⟩ :=
          assignFrom_cons hfields words' before c rest
        · exact absurd hcond (hnone hbefore field gap value tail)
        · rw [hcopy, hcopy']
          refine .copied ?_ (ih _ (by simp) _ rest rfl)
          intro hbefore field gap value tail hcond
          rw [← hcopy] at hcond
          obtain ⟨tail, hcond⟩ := exists_condition_of_assignFrom hfields hcopy hcond
          exact hnone hbefore field gap value tail hcond

end

/-- Two texts, given in reverse, behind which the same names stand alone. -/
def Aligned (fields : List String) (past past' : List Char) : Prop :=
  ∀ (u : List Char) (next : Option Char),
    standsAlone fields (u.reverse ++ past) next = standsAlone fields (u.reverse ++ past') next

theorem Aligned.append (h : Aligned fields past past') (u : List Char) :
    Aligned fields (u.reverse ++ past) (u.reverse ++ past') := by
  intro v next
  have huv := h (u ++ v) next
  rwa [List.reverse_append, List.append_assoc, List.append_assoc] at huv

theorem Alike.aligned (h : Alike past past') : Aligned fields past past' := by
  intro u next
  induction u generalizing past past' with
  | nil => exact h.standsAlone next
  | cons c u ih => simpa using ih (h.cons c)

theorem aligned_of_values {value value' : List Char} (hvalue : ∀ c ∈ value, inBareWord c = true)
    (hvalue' : ∀ c ∈ value', inBareWord c = true) (hne : value ≠ []) (hne' : value' ≠ [])
    (past past' : List Char) :
    Aligned fields (value.reverse ++ ':' :: past) (value'.reverse ++ ':' :: past') := by
  intro u next
  obtain ⟨run, rest, rfl, hrun, hrest⟩ := exists_run inBareWord u
  have hbare := List.forall_mem_append.mpr ⟨hvalue, hrun⟩
  have hbare' := List.forall_mem_append.mpr ⟨hvalue', hrun⟩
  cases rest with
  | nil =>
    have hnone {u past : List Char} (hu : ∀ c ∈ u, inBareWord c = true) :
        standsAlone fields (u.reverse ++ ':' :: past) next = false :=
      not_standsAlone_of_value hu
    rw [List.append_nil, ← List.append_assoc, ← List.append_assoc, ← List.reverse_append,
      ← List.reverse_append, hnone hbare, hnone hbare']
  | cons d rest =>
    have halike : Alike (d :: ((value ++ run).reverse ++ ':' :: past))
        (d :: ((value' ++ run).reverse ++ ':' :: past')) := by
      apply Alike.of_not_bare (hrest d rfl)
      rw [valueOpen_word hbare (by simp [hne]), valueOpen_word hbare' (by simp [hne'])]
    have haligned : Aligned fields _ _ := halike.aligned
    simpa using haligned rest next

/-- No name that stands alone reaches from one text, given in reverse, into the next. -/
def Unbroken (fields : List String) (past text : List Char) : Prop :=
  ∀ u v, text = u ++ v → u ≠ [] → standsAlone fields (u.reverse ++ past) v.head? = true →
    (lastWord (u.reverse ++ past)).length ≤ u.length

/-- A character of no word keeps the last word behind it. -/
theorem length_lastWord_le (hc : c ∈ u) (hbare : inBareWord c = false) :
    (lastWord (u.reverse ++ past)).length ≤ u.length := by
  rw [lastWord, List.length_reverse, List.takeWhile_append]
  split
  · next hall =>
    have hrun := (List.takeWhile_prefix inBareWord (l := u.reverse)).eq_of_length hall
    have hword := List.all_eq_true.mp (List.all_takeWhile (p := inBareWord) (l := u.reverse)) c
      (by simpa [hrun] using hc)
    rw [hbare] at hword
    cases hword
  · simpa using (List.takeWhile_prefix inBareWord (l := u.reverse)).length_le

theorem lastWord_of_length (h : (lastWord (u.reverse ++ past)).length = u.length) :
    lastWord (u.reverse ++ past) = u := by
  unfold lastWord at h ⊢
  rw [List.length_reverse, ← u.length_reverse] at h
  have hstart := List.prefix_of_prefix_length_le (List.takeWhile_prefix inBareWord)
    (List.prefix_append u.reverse past) (Nat.le_of_eq h)
  rw [hstart.eq_of_length h, List.reverse_reverse]

theorem unbroken_of_not_bare (h : ∀ c ∈ text.head?, inBareWord c = false) :
    Unbroken fields past text := by
  intro u v htext hne _
  obtain ⟨d, u, rfl⟩ := List.exists_cons_of_ne_nil hne
  exact length_lastWord_le List.mem_cons_self (h d (by simp [htext]))

theorem unbroken_of_value {value : List Char} (hvalue : ∀ c ∈ value, inBareWord c = true)
    (past text : List Char) : Unbroken fields (value.reverse ++ ':' :: past) text := by
  intro u v _ _ halone
  by_cases hu : ∀ c ∈ u, inBareWord c = true
  · rw [← List.append_assoc, ← List.reverse_append,
      not_standsAlone_of_value (List.forall_mem_append.mpr ⟨hvalue, hu⟩)] at halone
    cases halone
  · simp only [not_forall] at hu
    obtain ⟨c, hc, hnot⟩ := hu
    exact length_lastWord_le hc (by simpa using hnot)

/-- The text, behind one that is given in reverse, begins with a name that stands alone. -/
structure NameAlone (fields : List String) (past text : List Char) (field : String)
    (behind : List Char) : Prop where
  text : text = field.toList ++ behind
  alone : standsAlone fields (field.toList.reverse ++ past) behind.head? = true
  whole : lastWord (field.toList.reverse ++ past) = field.toList

variable {behind : List Char}

theorem NameAlone.isField (h : NameAlone fields past text field behind) : field ∈ fields := by
  have hfield := (standsAlone_iff.mp h.alone).1
  rwa [h.whole, String.ofList_toList] at hfield

theorem NameAlone.ends (h : NameAlone fields past text field behind) :
    ∀ c ∈ behind.head?, inBareWord c = false := by
  intro c hc
  have hcloses := (standsAlone_iff.mp h.alone).2.2
  rw [hc] at hcloses
  exact not_bare_of_closesName hcloses

/-- Where no name that stands alone begins at a character, none reaches over it. -/
theorem Unbroken.cons (h : Unbroken fields past (c :: rest))
    (hnone : ∀ field behind, ¬ NameAlone fields past (c :: rest) field behind) :
    Unbroken fields (c :: past) rest := by
  intro u v htext hne halone
  have hreverse : u.reverse ++ c :: past = (c :: u).reverse ++ past := by simp
  have hsplit : c :: rest = (c :: u) ++ v := by rw [htext, List.cons_append]
  rw [hreverse] at halone ⊢
  have hle := h (c :: u) v hsplit (List.cons_ne_nil c u) halone
  by_contra hlonger
  -- a name that is as long as this begins at the character
  have hlength : (lastWord ((c :: u).reverse ++ past)).length = (c :: u).length := by
    rw [List.length_cons] at hle ⊢
    omega
  have hwhole := lastWord_of_length hlength
  have hlist : (String.ofList (c :: u)).toList = c :: u := String.toList_ofList
  exact hnone (String.ofList (c :: u)) v
    ⟨by rw [hlist]; exact hsplit, by rw [hlist]; exact halone, by rw [hlist]; exact hwhole⟩

section

variable {truthy name value : List Char}

theorem insertFrom_eq_insertBehind (truthy past text : List Char) :
    insertFrom fields truthy past text =
      insertion fields truthy past text.head? ++ insertBehind fields truthy past text := by
  cases text <;> simp [insertFrom, insertBehind]

theorem head?_insertBehind (truthy past text : List Char) :
    (insertBehind fields truthy past text).head? = text.head? := by
  cases text <;> rfl

theorem insertBehind_word (hne : u ≠ []) (hu : ∀ c ∈ u, inBareWord c = true) :
    insertBehind fields truthy past (u ++ v) =
      u ++ insertFrom fields truthy (u.reverse ++ past) v := by
  obtain ⟨c, u, rfl⟩ := List.exists_cons_of_ne_nil hne
  have hrest := (List.forall_mem_cons.mp hu).2
  rw [List.cons_append, insertBehind, insertFrom_word hrest]
  simp

theorem insertBehind_copied (h : standsAlone fields (c :: past) rest.head? = false) :
    insertBehind fields truthy past (c :: rest) =
      c :: insertBehind fields truthy (c :: past) rest := by
  rw [insertBehind, insertFrom_eq_insertBehind, insertion, if_neg (by simp [h]), List.nil_append]

/-- A name that stands alone is copied, its value is inserted. -/
theorem insertBehind_alone (hne : name ≠ []) (hname : ∀ c ∈ name, inBareWord c = true)
    (halone : standsAlone fields (name.reverse ++ past) rest.head? = true) :
    insertBehind fields truthy past (name ++ rest) =
      name ++ ':' :: (truthy ++ insertBehind fields truthy (name.reverse ++ past) rest) := by
  rw [insertBehind_word hne hname, insertFrom_eq_insertBehind, insertion, if_pos halone,
    List.cons_append]

/-- A name with a value is copied with it. -/
theorem insertBehind_condition (hne : name ≠ []) (hname : ∀ c ∈ name, inBareWord c = true)
    (hvalue : ∀ c ∈ value, inBareWord c = true) :
    insertBehind fields truthy past (name ++ ':' :: (value ++ rest)) =
      name ++ ':' :: (value ++
        insertBehind fields truthy (value.reverse ++ ':' :: (name.reverse ++ past)) rest) := by
  rw [insertBehind_word hne hname, insertFrom_inserted _ _ _ _ hvalue, insertFrom_eq_insertBehind,
    insertion_of_value hvalue, List.nil_append]

theorem head?_reverse_append (u past : List Char) :
    (u.reverse ++ past).head? = lastOf past.head? u := by
  rw [List.head?_append, List.head?_reverse, lastOf]

theorem mem_of_head?_reverse_append (hne : u ≠ []) (h : c ∈ (u.reverse ++ past).head?) : c ∈ u := by
  rw [head?_reverse_append, lastOf, List.getLast?_eq_some_getLast hne] at h
  cases h
  exact List.getLast_mem hne

end

section

variable (hfields : AreNames fields)
include hfields

/-- The name of a field that ends a text is its last word, if no word goes on in front of it. -/
theorem lastWord_of_standsAlone (hfield : field ∈ fields)
    (hpast : past.head?.any isWordChar = false)
    (halone : standsAlone fields (field.toList.reverse ++ past) next = true) :
    lastWord (field.toList.reverse ++ past) = field.toList := by
  have hbare := hfields.isBare field hfield
  cases past with
  | nil => exact (lastWord_append hbare (by simp)).1
  | cons d past =>
    cases hd : inBareWord d with
    | false => exact (lastWord_append hbare (by simp [hd])).1
    | true =>
      -- the character in front would be of the name, and so of a word
      have hmem : d ∈ lastWord (field.toList.reverse ++ d :: past) := by
        rw [lastWord, List.takeWhile_append_of_pos (by simpa using hbare),
          List.takeWhile_cons_of_pos hd]
        simp
      have hword := hfields.isWord _ (standsAlone_iff.mp halone).1 d (by simpa using hmem)
      rw [List.head?_cons, Option.any_some, hword] at hpast
      cases hpast

theorem NameAlone.begins (h : NameAlone fields past text field behind) :
    ∀ c ∈ past.head?, inBareWord c = false := by
  have hbare := hfields.isBare field h.isField
  have hwhole := h.whole
  intro c hc
  obtain ⟨past, rfl⟩ := List.head?_eq_some_iff.mp hc
  by_contra hword
  rw [lastWord, List.takeWhile_append_of_pos (by simpa using hbare),
    List.takeWhile_cons_of_pos (by simpa using hword)] at hwhole
  have hlength := congrArg List.length hwhole
  simp only [List.length_reverse, List.length_append, List.length_cons] at hlength
  omega

/-- A name that may stand alone is longer than one character. -/
theorem Unbroken.not_standsAlone (h : Unbroken fields past (c :: rest)) :
    standsAlone fields (c :: past) rest.head? = false := by
  rw [Bool.eq_false_iff]
  intro halone
  have hshort := h [c] rest rfl (by simp) halone
  have hlong := hfields.isLong _ (standsAlone_iff.mp halone).1
  rw [String.toList_ofList] at hlong
  simp only [List.reverse_singleton, List.singleton_append, List.length_singleton] at hshort
  omega

/-- A name that stands alone is no part of a word, where word characters are of words by both
measures. -/
theorem NameAlone.notWord (h : NameAlone fields past text field behind)
    (hpast : ∀ c ∈ past.head?, isWordChar c = true → inBareWord c = true)
    (htext : ∀ c ∈ text, isWordChar c = true → inBareWord c = true) :
    past.head?.any isWordChar = false ∧ EndsRun behind := by
  constructor
  · cases hc : past.head? with
    | none => rfl
    | some c =>
      rw [Option.any_some, Bool.eq_false_iff]
      intro hword
      have hbare := hpast c hc hword
      rw [h.begins hfields c hc] at hbare
      cases hbare
  · intro c hc
    rw [Bool.eq_false_iff]
    intro hword
    have hmem : c ∈ text := by
      rw [h.text]
      exact List.mem_append_right _ (List.mem_of_mem_head? hc)
    have hbare := htext c hmem hword
    rw [h.ends c hc] at hbare
    cases hbare

/-- A name that stands alone at one place of two parallel texts gets its value in both. -/
theorem NameAlone.parallel {behind' : List Char} (hwords : words.Legible)
    (h : NameAlone fields past text field behind)
    (hpast : ∀ c ∈ past.head?, isWordChar c = true → inBareWord c = true)
    (htext : ∀ c ∈ text, isWordChar c = true → inBareWord c = true)
    (haligned : Aligned fields past past') (hheads : behind.head? = behind'.head?)
    (hbehind : Parallel fields words words' (field.toList.reverse ++ past).head?
      (insertBehind fields (words.spell true) (field.toList.reverse ++ past) behind)
      (insertBehind fields (words'.spell true) (field.toList.reverse ++ past') behind')) :
    Parallel fields words words' past.head?
      (insertBehind fields (words.spell true) past (field.toList ++ behind))
      (insertBehind fields (words'.spell true) past' (field.toList ++ behind')) := by
  have hne := hfields.ne_nil h.isField
  have hbare := hfields.isBare field h.isField
  have halone' : standsAlone fields (field.toList.reverse ++ past') behind'.head? = true := by
    rw [← haligned, ← hheads]
    exact h.alone
  obtain ⟨hbefore, hends⟩ := h.notWord hfields hpast htext
  rw [insertBehind_alone hne hbare h.alone, insertBehind_alone hne hbare halone']
  apply Parallel.spelled true hbefore h.isField
  · rw [EndsRun, head?_insertBehind]
    exact hends
  · apply hbehind.congr
    rw [head?_reverse_append, lastOf_of_forall (hfields.isWord field h.isField) hne,
      lastOf_spell hwords]

/-- A name that stands alone is copied as a whole, where its first character is copied. -/
theorem NameAlone.exists_of_copied (h : NameAlone fields past (c :: rest) field behind)
    (hrest : Parallel fields words words' (some c) rest rest') :
    ∃ behind', c :: rest' = field.toList ++ behind' ∧
      Parallel fields words words' (field.toList.reverse ++ past).head? behind behind' := by
  have hword := hfields.isWord field h.isField
  obtain ⟨f, name, hcons⟩ := List.exists_cons_of_ne_nil (hfields.ne_nil h.isField)
  have hsplit := h.text
  rw [hcons, List.cons_append, List.cons.injEq] at hsplit
  obtain ⟨rfl, rfl⟩ := hsplit
  rw [hcons, List.forall_mem_cons] at hword
  obtain ⟨behind', rfl, hbehind⟩ := hrest.exists_of_word (by simpa using hword.1) hword.2
  refine ⟨behind', by rw [hcons, List.cons_append], ?_⟩
  rw [head?_reverse_append, hcons, lastOf_cons]
  exact hbehind

/-- A character where no name that stands alone begins is copied in both texts. -/
theorem Parallel.insertBehind_cons (hwords : words.Legible) (haligned : Aligned fields past past')
    (hunbroken : Unbroken fields past (c :: rest))
    (hname : ∀ field behind, ¬ NameAlone fields past (c :: rest) field behind)
    (hnone : past.head?.any isWordChar = false → ∀ field gap value tail,
      ¬ Condition fields (c :: rest) field gap value tail)
    (hrest : Parallel fields words words' (some c) rest rest')
    (hinserted : Parallel fields words words' (some c)
      (Spelling.insertBehind fields (words.spell true) (c :: past) rest)
      (Spelling.insertBehind fields (words'.spell true) (c :: past') rest')) :
    Parallel fields words words' past.head?
      (Spelling.insertBehind fields (words.spell true) past (c :: rest))
      (Spelling.insertBehind fields (words'.spell true) past' (c :: rest')) := by
  have hnot : standsAlone fields (c :: past) rest.head? = false :=
    hunbroken.not_standsAlone hfields
  have hnot' : standsAlone fields (c :: past') rest'.head? = false := by
    rw [← hrest.head?_eq hfields]
    exact (haligned [c] rest.head?).symm.trans hnot
  rw [insertBehind_copied hnot, insertBehind_copied hnot']
  refine .copied ?_ hinserted
  intro hbefore field gap value tail hcond
  have hinsert : insertFrom fields (words.spell true) (c :: past) rest =
      Spelling.insertBehind fields (words.spell true) (c :: past) rest := by
    rw [insertFrom_eq_insertBehind, insertion, if_neg (by simp [hnot]), List.nil_append]
  rw [← hinsert] at hcond
  obtain ⟨-, -, behind, hsplit, halone⟩ | ⟨tail, hcond'⟩ :=
    condition_of_insertFrom hfields hwords hcond
  · exact hname field behind ⟨hsplit, halone,
      lastWord_of_standsAlone hfields hcond.isField hbefore halone⟩
  · exact hnone hbefore field gap value tail hcond'

/-- Inserting values into parallel texts leaves parallel texts, provided that no name reaches into
them from before. -/
theorem Parallel.insertBehind (hwords : words.Legible) (hwords' : words'.Legible)
    (hpast : ∀ c ∈ past.head?, isWordChar c = true → inBareWord c = true)
    (htext : ∀ c ∈ text, isWordChar c = true → inBareWord c = true)
    (haligned : Aligned fields past past') (hunbroken : Unbroken fields past text)
    (h : Parallel fields words words' past.head? text text') :
    Parallel fields words words' past.head?
      (insertBehind fields (words.spell true) past text)
      (insertBehind fields (words'.spell true) past' text') := by
  induction hn : text.length using Nat.strongRecOn generalizing past past' text text' with
  | ind n ih =>
    subst hn
    cases h with
    | nil => exact .nil
    | @copied _ c rest rest' hnone hrest =>
      by_cases hname : ∃ field behind, NameAlone fields past (c :: rest) field behind
      · obtain ⟨field, behind, hname⟩ := hname
        have hfield := hname.isField
        have hsplit := hname.text
        obtain ⟨behind', hsplit', hbehind⟩ := hname.exists_of_copied hfields hrest
        have hheads : behind.head? = behind'.head? := hbehind.head?_eq hfields
        rw [hsplit, hsplit']
        apply hname.parallel hfields hwords hpast htext haligned hheads
        refine ih behind.length ?_ ?_ ?_ (haligned.append field.toList)
          (unbroken_of_not_bare hname.ends) hbehind rfl
        · have := List.length_pos_of_ne_nil (hfields.ne_nil hfield)
          rw [hsplit, List.length_append]
          omega
        · intro d hd _
          exact hfields.isBare field hfield d
            (mem_of_head?_reverse_append (hfields.ne_nil hfield) hd)
        · intro d hd
          exact htext d (by simp [hsplit, hd])
      · simp only [not_exists] at hname
        refine hrest.insertBehind_cons hfields hwords haligned hunbroken hname hnone ?_
        have hrest' : Parallel fields words words' (c :: past).head? rest rest' := hrest
        refine ih rest.length (by simp) ?_ ?_ (haligned.append [c]) (hunbroken.cons hname)
          hrest' rfl
        · intro d hd
          cases hd
          exact htext c List.mem_cons_self
        · intro d hd
          exact htext d (List.mem_cons_of_mem c hd)
    | @spelled _ field rest rest' truth hbefore hfield hends hrest =>
      have hne := hfields.ne_nil hfield
      have hbare := hfields.isBare field hfield
      have hrest' : Parallel fields words words'
          ((words.spell truth).reverse ++ ':' :: (field.toList.reverse ++ past)).head? rest
          rest' := by
        rw [head?_reverse_append]
        exact hrest
      rw [insertBehind_condition hne hbare (hwords.isBare truth),
        insertBehind_condition hne hbare (hwords'.isBare truth)]
      apply Parallel.spelled truth hbefore hfield
      · rw [EndsRun, head?_insertBehind]
        exact hends
      · have haligned' : Aligned fields
            ((words.spell truth).reverse ++ ':' :: (field.toList.reverse ++ past))
            ((words'.spell truth).reverse ++ ':' :: (field.toList.reverse ++ past')) :=
          aligned_of_values (hwords.isBare truth) (hwords'.isBare truth) (hwords.ne_nil truth)
            (hwords'.ne_nil truth) _ _
        have hinserted := ih rest.length (by simp; omega) ?_ ?_ haligned'
          (unbroken_of_value (hwords.isBare truth) _ _) hrest' rfl
        · rwa [head?_reverse_append] at hinserted
        · intro c hc _
          exact hwords.isBare truth c (mem_of_head?_reverse_append (hwords.ne_nil truth) hc)
        · intro c hc
          exact htext c (by simp [hc])

end

end NetQuery.Spelling
