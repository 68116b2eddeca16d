import NetQuery.Proofs.Spelling.Expansion
import NetQuery.Proofs.Text.Segments

namespace NetQuery.Spelling

open Text

variable {fields : List String} {words : Words} {truthy : List Char} {before : Option Char}
  {past cs : List Char} {p : Char → Bool}

theorem forall_mem_insertFrom (htruthy : ∀ c ∈ truthy, p c = true) (hcolon : p ':' = true)
    (hcs : ∀ c ∈ cs, p c = true) : ∀ c ∈ insertFrom fields truthy past cs, p c = true := by
  have hins (past : List Char) (next : Option Char) :
      ∀ c ∈ insertion fields truthy past next, p c = true := by
    obtain ⟨-, h⟩ | ⟨-, h⟩ := insertion_eq fields truthy past next
    all_goals rw [h]
    · exact List.forall_mem_cons.mpr ⟨hcolon, htruthy⟩
    · simp
  induction cs generalizing past with
  | nil => exact hins past none
  | cons c rest ih =>
    obtain ⟨hc, hrest⟩ := List.forall_mem_cons.mp hcs
    exact List.forall_mem_append.mpr ⟨hins past (some c), List.forall_mem_cons.mpr ⟨hc, ih hrest⟩⟩

theorem insertFrom_ne_nil (h : cs ≠ []) : insertFrom fields truthy past cs ≠ [] := by
  cases cs with
  | nil => exact absurd rfl h
  | cons c rest => simp [insertFrom]

section

variable (hfields : AreNames fields)
include hfields

theorem forall_mem_assignFrom (hname : ∀ field ∈ fields, ∀ c ∈ field.toList, p c = true)
    (hspell : ∀ truth, ∀ c ∈ words.spell truth, p c = true) (hcolon : p ':' = true)
    (hcs : ∀ c ∈ cs, p c = true) : ∀ c ∈ assignFrom fields words before 0 cs, p c = true := by
  induction hn : cs.length using Nat.strongRecOn generalizing before cs with
  | ind n ih =>
    subst hn
    cases cs with
    | nil => simp [assignFrom]
    | cons c rest =>
      obtain ⟨hbefore, field, gap, value, tail, h⟩ | ⟨-, hcopy⟩ :=
        assignFrom_cons hfields words before c rest
      · have hlength : tail.length < (c :: rest).length := by
          have := List.length_pos_of_ne_nil (h.name_ne_nil hfields)
          simp only [h.text, List.length_append]
          omega
        have htail : ∀ c ∈ tail, p c = true := by
          intro c hc
          exact hcs c (by simp [h.text, hc])
        rw [assignFrom_condition hfields hbefore h, List.forall_mem_append, List.forall_mem_cons,
          List.forall_mem_append]
        exact ⟨hname field h.isField, hcolon, hspell _, ih _ hlength htail rfl⟩
      · obtain ⟨hc, hrest⟩ := List.forall_mem_cons.mp hcs
        rw [hcopy, List.forall_mem_cons]
        exact ⟨hc, ih _ (by simp) hrest rfl⟩

omit hfields in
theorem not_quote_of_isWord (c : Char) (h : isWordChar c = true) : (!isQuote c) = true := by
  by_contra hquote
  simp only [isQuote, Bool.not_eq_true', Bool.not_eq_false, Bool.or_eq_true, beq_iff_eq] at hquote
  obtain rfl | rfl := hquote <;> revert h <;> decide +kernel

theorem isPlain_assign (hwords : words.Legible) (h : IsPlain cs) :
    IsPlain (assign fields words cs) := by
  refine ⟨fun hnil => ?_, fun c hc => ?_⟩
  · have hhead := head?_assignFrom hfields words none cs
    rw [assign] at hnil
    rw [hnil, List.head?_nil, eq_comm, List.head?_eq_none_iff] at hhead
    exact h.1 hhead
  · have hplain := forall_mem_assignFrom (p := fun c => !isQuote c) hfields
      (fun field hfield c hc => not_quote_of_isWord c (hfields.isWord field hfield c hc))
      (fun truth c hc => not_quote_of_isWord c ((hwords.isTruth truth).isWord c hc)) rfl
      (by simpa using h.2) c hc
    simpa using hplain

theorem isPlain_expand (hwords : words.Legible) (h : IsPlain cs) :
    IsPlain (expand fields words.truthy cs) := by
  rw [expand_eq hfields]
  refine ⟨insertFrom_ne_nil h.1, fun c hc => ?_⟩
  have hplain := forall_mem_insertFrom (p := fun c => !isQuote c)
    (fun c hc => not_quote_of_isWord c ((hwords.isTruth true).isWord c hc)) rfl
    (by simpa using h.2) c hc
  simpa using hplain

/-- A plain stretch stays plain when it is respelled. -/
theorem isPlain_respellPlain (hwords : words.Legible) (h : IsPlain cs) :
    IsPlain (respellPlain fields words cs) :=
  isPlain_expand hfields hwords (isPlain_assign hfields hwords h)

/-- Respelling leaves the conditions of a stretch settled. -/
theorem settled_respellPlain (hwords : words.Fit fields) (cs : List Char) :
    Settled fields words none (respellPlain fields words cs) := by
  have htruthy : words.truthy.toList = words.spell true := rfl
  rw [respellPlain, expand_eq hfields, htruthy]
  exact settled_insertFrom hfields hwords [] rfl (settled_assignFrom hfields hwords none cs)

/-- In a settled stretch only fields that stand alone are respelled. -/
theorem respellPlain_of_settled (h : Settled fields words none cs) :
    respellPlain fields words cs = expand fields words.truthy cs := by
  have hassign : assign fields words cs = cs := assignFrom_of_settled hfields 0 h
  rw [respellPlain, hassign]

/-- Respelling a stretch without quotes twice is respelling it once. -/
theorem respellPlain_respellPlain (hwords : words.Fit fields) (cs : List Char) :
    respellPlain fields words (respellPlain fields words cs) = respellPlain fields words cs := by
  have htruthy : words.truthy.toList = words.spell true := rfl
  rw [respellPlain_of_settled hfields (settled_respellPlain hfields hwords cs), respellPlain,
    expand_eq hfields, expand_eq hfields, htruthy]
  exact insertFrom_insertFrom hfields (hwords.isBare true)
    (List.ne_nil_of_length_pos (hwords.isTruth true).length_le.1) ⟨rfl, rfl, rfl⟩

end

theorem respellPlain_nil (words : Words) (cs : List Char) : respellPlain [] words cs = cs := by
  have hfields : AreNames [] := ⟨by simp, by simp, by simp⟩
  have hassign (before : Option Char) : assignFrom [] words before 0 cs = cs := by
    induction cs generalizing before with
    | nil => rfl
    | cons c rest ih =>
      obtain ⟨-, _, _, _, _, h⟩ | ⟨-, hcopy⟩ := assignFrom_cons hfields words before c rest
      · exact absurd h.isField (by simp)
      · rw [hcopy, ih]
  rw [respellPlain, assign, hassign, expand_eq hfields]
  obtain heq | ⟨_, _, -, halone, -⟩ := exists_first_insertion [] words.truthy.toList [] cs
  · exact heq
  · exact absurd (standsAlone_iff.mp halone).1 (by simp)

theorem respell_eq (entity : Entity) (words : Words) (text : String) :
    respell entity words text = String.ofList (((segments text.toList).map
      (Segment.respelled (respellPlain (entity.namesOfKind .boolean) words))).flatMap
        (·.chars)) := by
  have hstep (fields : List String) (ss : List Segment) :
      (ss.map (Segment.respelled (respellPlain fields words))).flatMap (·.chars) =
        ss.flatMap fun s => if s.quoted then s.chars else respellPlain fields words s.chars := by
    rw [List.flatMap_map]
    congr 1
    funext s
    unfold Segment.respelled
    split <;> rfl
  rw [hstep]
  unfold respell
  split
  · next hnil =>
    simp only [hnil, respellPlain_nil, ite_self]
    rw [flatMap_segments, String.ofList_toList]
  · rfl

/-- Encoding a text twice is encoding it once. -/
theorem encode_encode (encoding : Encoding) (entity : Entity) (text : String) :
    encode encoding entity (encode encoding entity text) = encode encoding entity text := by
  have hfields := areNames_boolean entity
  have hwords := encoding.fit entity
  have hplain : ∀ cs, IsPlain cs →
      IsPlain (respellPlain (entity.namesOfKind .boolean) encoding.words cs) :=
    fun _ hcs => isPlain_respellPlain hfields hwords.toLegible hcs
  simp only [encode, respell_eq, String.toList_ofList, segments_respelled hplain, List.map_map]
  congr 3
  funext s
  unfold Segment.respelled
  by_cases hs : s.quoted <;> simp [hs, respellPlain_respellPlain hfields hwords]

end NetQuery.Spelling
