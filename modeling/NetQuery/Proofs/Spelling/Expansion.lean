import NetQuery.Proofs.Spelling.Settled
import NetQuery.Proofs.Token.Cutting

namespace NetQuery.Spelling

open Text

variable {fields : List String} {words : Words} {truthy : List Char} {before : Option Char}
  {field : String} {gap value tail cs rest u v past past' : List Char} {next : Option Char}
  {c : Char}

/-- The word at the end of a text, which is given in reverse. -/
def lastWord (past : List Char) : List Char :=
  (past.takeWhile inBareWord).reverse

/-- Whether the last character that is no blank, of a text given in reverse, opens a value. -/
def valueOpen (past : List Char) : Bool :=
  (dropBlanks past).head?.any opensValue

/-- Whether a word ends before this character, and no operator comes with it. -/
def closesName (next : Option Char) : Bool :=
  !next.any fun c => inBareWord c || c == ':' || c == '=' || c == '!' || c == '<' || c == '>'

/-- Whether a name stands alone at the end of a text, given in reverse, before a character. -/
def standsAlone (fields : List String) (past : List Char) (next : Option Char) : Bool :=
  fields.contains (String.ofList (lastWord past)) && !valueOpen (past.dropWhile inBareWord) &&
    closesName next

/-- What is inserted between a text, given in reverse, and the character behind it. -/
def insertion (fields : List String) (truthy : List Char) (past : List Char)
    (next : Option Char) : List Char :=
  if standsAlone fields past next then ':' :: truthy else []

/-- A text with all insertions, behind one that is given in reverse. -/
def insertFrom (fields : List String) (truthy : List Char) (past : List Char) :
    List Char → List Char
  | [] => insertion fields truthy past none
  | c :: rest =>
    insertion fields truthy past (some c) ++ c :: insertFrom fields truthy (c :: past) rest

theorem standsAlone_iff : standsAlone fields past next = true ↔
    String.ofList (lastWord past) ∈ fields ∧ valueOpen (past.dropWhile inBareWord) = false ∧
      closesName next = true := by
  simp [standsAlone, and_assoc]

theorem insertion_eq (fields : List String) (truthy past : List Char) (next : Option Char) :
    (standsAlone fields past next = true ∧ insertion fields truthy past next = ':' :: truthy) ∨
    (standsAlone fields past next = false ∧ insertion fields truthy past next = []) := by
  unfold insertion
  cases standsAlone fields past next <;> simp

/-- The text behind a point, with all insertions but the one at the point. -/
def insertBehind (fields : List String) (truthy past : List Char) : List Char → List Char
  | [] => []
  | c :: rest => c :: insertFrom fields truthy (c :: past) rest

/-- Nothing is inserted in a text, or there is a first name that stands alone. -/
theorem exists_first_insertion (fields : List String) (truthy past cs : List Char) :
    insertFrom fields truthy past cs = cs ∨
    ∃ u v, cs = u ++ v ∧ standsAlone fields (u.reverse ++ past) v.head? = true ∧
      insertFrom fields truthy past cs =
        u ++ ':' :: (truthy ++ insertBehind fields truthy (u.reverse ++ past) v) := by
  induction cs generalizing past with
  | nil =>
    obtain ⟨halone, hins⟩ | ⟨-, hins⟩ := insertion_eq fields truthy past none
    · exact .inr ⟨[], [], rfl, halone, by simp [insertFrom, hins, insertBehind]⟩
    · exact .inl hins
  | cons c cs ih =>
    obtain ⟨halone, hins⟩ | ⟨-, hins⟩ := insertion_eq fields truthy past (some c)
    · exact .inr ⟨[], c :: cs, rfl, halone, by simp [insertFrom, hins, insertBehind]⟩
    · rw [insertFrom, hins, List.nil_append]
      obtain heq | ⟨u, v, rfl, halone, hins⟩ := ih (c :: past)
      · exact .inl (congrArg (c :: ·) heq)
      · exact .inr ⟨c :: u, v, rfl, by simpa using halone, by simp [hins]⟩

theorem not_bare_of_closesName (h : closesName (some c) = true) : inBareWord c = false := by
  simp_all [closesName]

theorem insertFrom_word (hu : ∀ c ∈ u, inBareWord c = true) :
    insertFrom fields truthy past (u ++ v) =
      u ++ insertFrom fields truthy (u.reverse ++ past) v := by
  induction u generalizing past with
  | nil => rfl
  | cons c u ih =>
    obtain ⟨hc, hu⟩ := List.forall_mem_cons.mp hu
    have hnot : standsAlone fields past (some c) = false := by
      simp [standsAlone, closesName, hc]
    simp [insertFrom, insertion, hnot, ih hu]

/-- Words of raw text are made of the characters that words of the language start with. -/
theorem inBareWord_eq (c : Char) : inBareWord c = Lexer.startsWord c := by
  unfold inBareWord Lexer.startsWord
  ac_rfl

/-- A word character of a token without quotes is of a word of raw text. -/
theorem bare_of_isPlain {c : Char} (hplain : Lexer.isPlain c = true)
    (hword : isWordChar c = true) : inBareWord c = true := by
  by_cases hstart : Lexer.startsWord c = true
  · rwa [inBareWord_eq]
  · by_cases hblank : isBlank c = true
    · rw [not_wordChar_of_isBlank hblank] at hword
      cases hword
    · have hsign : c ∈ ['/', '(', ')', '[', ']', ':', '=', '<', '>', '!'] := by
        simpa [Lexer.isPlain, Lexer.inWord, hstart, hblank] using hplain
      have hascii : ['/', '(', ')', '[', ']', ':', '=', '<', '>', '!'].all
          (fun sign => decide (sign.toNat < 0xaa)) = true := by decide
      have hbound := of_decide_eq_true (List.all_eq_true.mp hascii c hsign)
      rw [isWordChar_of_lt hbound] at hword
      rw [inBareWord, hword]
      rfl

theorem not_bare_of_isBlank (h : isBlank c = true) : inBareWord c = false := by
  rw [inBareWord_eq]
  exact Lexer.startsWord_of_isBlank h

theorem pieces_word (hne : u ≠ []) (hu : ∀ c ∈ u, inBareWord c = true)
    (hv : ∀ c ∈ v.head?, inBareWord c = false) : pieces (u ++ v) = .word u :: pieces v := by
  induction u with
  | nil => exact absurd rfl hne
  | cons c u ih =>
    obtain ⟨hc, hu⟩ := List.forall_mem_cons.mp hu
    cases u with
    | nil =>
      have hpieces : ∀ w ps, pieces v ≠ .word w :: ps := by
        intro w ps h
        cases v with
        | nil => simp [pieces] at h
        | cons d v => simp [pieces, hv d rfl] at h
      rw [List.singleton_append, pieces, if_pos hc]
      split
      · next w ps h => exact absurd h (hpieces w ps)
      · rfl
    | cons d u =>
      rw [List.cons_append, pieces, if_pos hc, ih (by simp) hu]

theorem operatorNext_pieces (hv : ∀ c ∈ v.head?, inBareWord c = false) :
    (!operatorNext (pieces v)) = closesName v.head? := by
  cases v with
  | nil => rfl
  | cons d v =>
    have hd := hv d rfl
    simp [pieces, hd, operatorNext, closesName]

theorem lastWord_append (hu : ∀ c ∈ u, inBareWord c = true)
    (hpast : ∀ c ∈ past.head?, inBareWord c = false) :
    lastWord (u.reverse ++ past) = u ∧ (u.reverse ++ past).dropWhile inBareWord = past := by
  have hall : ∀ c ∈ u.reverse, inBareWord c = true := by simpa using hu
  unfold lastWord
  rw [List.takeWhile_append_of_pos hall, List.dropWhile_append_of_pos hall]
  cases past with
  | nil => simp
  | cons c past => simp [hpast c rfl]

theorem valueOpen_cons (c : Char) (past : List Char) :
    valueOpen (c :: past) = if isBlank c then valueOpen past else opensValue c := by
  unfold valueOpen dropBlanks
  rw [List.dropWhile_cons]
  split <;> simp

/-- The walk over the pieces knows whether a value is open from the last character that is no
blank. -/
theorem any_opensValue_cons (h : before.any opensValue = valueOpen past) :
    (if isBlank c then before else some c).any opensValue = valueOpen (c :: past) := by
  rw [valueOpen_cons]
  split
  · exact h
  · rfl

theorem not_bare_of_opensValue (h : opensValue c = true) : inBareWord c = false := by
  simp only [opensValue, Bool.or_eq_true, beq_iff_eq] at h
  obtain (((rfl | rfl) | rfl) | rfl) | rfl := h <;> decide

theorem valueOpen_of_bare (h : inBareWord c = true) : valueOpen (c :: past) = false := by
  rw [valueOpen_cons]
  split
  · next hblank => simp [not_bare_of_isBlank hblank] at h
  · rw [Bool.eq_false_iff]
    intro hopens
    simp [not_bare_of_opensValue hopens] at h

/-- Behind a word no value is opened. -/
theorem valueOpen_word (hu : ∀ c ∈ u, inBareWord c = true) (hne : u ≠ []) :
    valueOpen (u.reverse ++ past) = false := by
  obtain ⟨c, u', h⟩ := List.exists_cons_of_ne_nil (show u.reverse ≠ [] by simpa using hne)
  rw [h, List.cons_append]
  exact valueOpen_of_bare (hu c (List.mem_reverse.mp (h ▸ List.mem_cons_self)))

/-- Behind a word that is read at once stands what is inserted behind its last character. -/
theorem insertion_of_word (hword : ∀ c ∈ u, inBareWord c = true)
    (hpast : ∀ c ∈ past.head?, inBareWord c = false)
    (hbehind : ∀ c ∈ v.head?, inBareWord c = false)
    (hbefore : before.any opensValue = valueOpen past) :
    (if (!operatorNext (pieces v) && !before.any opensValue) && fields.contains (String.ofList u)
      then ':' :: truthy else []) =
      insertion fields truthy (u.reverse ++ past) v.head? := by
  obtain ⟨hlast, hrest⟩ := lastWord_append hword hpast
  rw [operatorNext_pieces hbehind, insertion, standsAlone, hlast, hrest, hbefore]
  congr 2
  ac_rfl

section

variable (hfields : AreNames fields)
include hfields

theorem ofList_nil_notMem : String.ofList [] ∉ fields := by
  intro h
  have := hfields.isLong _ h
  simp at this

theorem insertion_of_not_bare (h : ∀ c ∈ past.head?, inBareWord c = false) :
    insertion fields truthy past next = [] := by
  have hword : lastWord past = [] := by simpa using (lastWord_append (u := []) (by simp) h).1
  unfold insertion
  rw [if_neg]
  rw [standsAlone_iff, hword]
  exact fun h => ofList_nil_notMem hfields h.1

/-- The expansion of the pieces of a text is the text with all insertions. -/
theorem expandFrom_pieces {truthy : String} (before : Option Char) (past cs : List Char)
    (hpast : ∀ c ∈ past.head?, inBareWord c = false)
    (hbefore : before.any opensValue = valueOpen past) :
    expandFrom fields truthy before (pieces cs) = insertFrom fields truthy.toList past cs := by
  induction hn : cs.length using Nat.strongRecOn generalizing before past cs with
  | ind n ih =>
    subst hn
    cases cs with
    | nil => simp [pieces, expandFrom, insertFrom, insertion_of_not_bare hfields hpast]
    | cons c rest =>
      cases hc : inBareWord c with
      | false =>
        rw [pieces, if_neg (by simp [hc]), expandFrom, insertFrom,
          insertion_of_not_bare hfields hpast, List.nil_append,
          ih _ (by simp) _ (c :: past) rest (by simp [hc]) (any_opensValue_cons hbefore) rfl]
      | true =>
        -- a whole word is read at once, and with it the character behind it
        obtain ⟨word, behind, hcs, hword, hbehind⟩ := exists_run inBareWord (c :: rest)
        have hne : word ≠ [] := by
          rintro rfl
          rw [List.nil_append] at hcs
          simp [hbehind c (by simp [← hcs])] at hc
        rw [hcs, pieces_word hne hword hbehind, expandFrom, insertFrom_word hword]
        simp only [insertion_of_word hword hpast hbehind hbefore, List.append_assoc]
        congr 1
        cases behind with
        | nil => simp [pieces, expandFrom, insertFrom]
        | cons d behind =>
          have hd := hbehind d rfl
          have hlength : behind.length < (c :: rest).length := by
            rw [hcs, List.length_append, List.length_cons]
            omega
          have hclosed : (none : Option Char).any opensValue = valueOpen (word.reverse ++ past) :=
            (valueOpen_word hword hne).symm
          rw [pieces, if_neg (by simp [hd]), expandFrom, insertFrom, List.head?_cons,
            ih _ hlength _ (d :: (word.reverse ++ past)) behind (by simp [hd])
              (any_opensValue_cons hclosed) rfl]

theorem expand_eq {truthy : String} (cs : List Char) :
    expand fields truthy cs = insertFrom fields truthy.toList [] cs :=
  expandFrom_pieces hfields none [] cs (by simp) rfl

end

/-- Two texts, given in reverse, that insertions behind them do not tell apart. -/
structure Alike (past past' : List Char) : Prop where
  lastWord : lastWord past = lastWord past'
  valueOpen : valueOpen (past.dropWhile inBareWord) = valueOpen (past'.dropWhile inBareWord)
  valueOpen_blank : Spelling.valueOpen past = Spelling.valueOpen past'

theorem Alike.standsAlone (h : Alike past past') (next : Option Char) :
    standsAlone fields past next = standsAlone fields past' next := by
  unfold Spelling.standsAlone
  rw [h.lastWord, h.valueOpen]

theorem Alike.cons (h : Alike past past') (c : Char) : Alike (c :: past) (c :: past') := by
  have hopen : Spelling.valueOpen (c :: past) = Spelling.valueOpen (c :: past') := by
    rw [valueOpen_cons, valueOpen_cons, h.valueOpen_blank]
  have hword := h.lastWord
  unfold Spelling.lastWord at hword
  cases hc : inBareWord c with
  | true =>
    exact ⟨by simp [Spelling.lastWord, hc, hword], by simpa [hc] using h.valueOpen, hopen⟩
  | false => exact ⟨by simp [Spelling.lastWord, hc], by simpa [hc] using hopen, hopen⟩

/-- Behind a character that is of no word, words before it are told apart no more. -/
theorem Alike.of_not_bare (hc : inBareWord c = false)
    (h : Spelling.valueOpen past = Spelling.valueOpen past') : Alike (c :: past) (c :: past') := by
  have hopen : Spelling.valueOpen (c :: past) = Spelling.valueOpen (c :: past') := by
    rw [valueOpen_cons, valueOpen_cons, h]
  exact ⟨by simp [Spelling.lastWord, hc], by simpa [hc] using hopen, hopen⟩

theorem not_standsAlone_of_value (hu : ∀ c ∈ u, inBareWord c = true) :
    standsAlone fields (u.reverse ++ ':' :: past) next = false := by
  have hcolon : ∀ c ∈ (':' :: past).head?, inBareWord c = false := by
    rintro c ⟨⟩
    decide
  rw [Bool.eq_false_iff, ne_eq, standsAlone_iff, (lastWord_append hu hcolon).2]
  rintro ⟨-, hopen, -⟩
  cases hopen

theorem insertion_of_value (hu : ∀ c ∈ u, inBareWord c = true) :
    insertion fields truthy (u.reverse ++ ':' :: past) next = [] := by
  simp [insertion, not_standsAlone_of_value hu]

theorem insertFrom_inserted (fields : List String) (truthy past v : List Char)
    (hu : ∀ c ∈ u, inBareWord c = true) :
    insertFrom fields truthy past (':' :: (u ++ v)) =
      ':' :: (u ++ insertFrom fields truthy (u.reverse ++ ':' :: past) v) := by
  have hnot : insertion fields truthy past (some ':') = [] := by
    unfold insertion
    rw [if_neg]
    rw [standsAlone_iff]
    rintro ⟨-, -, hcloses⟩
    cases hcloses
  rw [insertFrom, hnot, insertFrom_word hu, List.nil_append]

/-- What comes next in a text with insertions was inserted, or it was there before. -/
theorem insertFrom_eq_cons (h : insertFrom fields truthy past cs = c :: v) :
    (standsAlone fields past cs.head? = true ∧ c = ':' ∧ ∃ behind, v = truthy ++ behind) ∨
      ∃ rest, cs = c :: rest ∧ v = insertFrom fields truthy (c :: past) rest := by
  cases cs with
  | nil =>
    obtain ⟨halone, hins⟩ | ⟨-, hins⟩ := insertion_eq fields truthy past none
    all_goals rw [insertFrom, hins] at h
    · obtain ⟨rfl, rfl⟩ := List.cons.inj h
      exact .inl ⟨halone, rfl, [], by simp⟩
    · cases h
  | cons d rest =>
    obtain ⟨halone, hins⟩ | ⟨-, hins⟩ :=
      insertion_eq fields truthy past (some d)
    all_goals rw [insertFrom, hins] at h
    · obtain ⟨rfl, rfl⟩ := List.cons.inj h
      exact .inl ⟨halone, rfl, _, rfl⟩
    · obtain ⟨rfl, rfl⟩ := List.cons.inj h
      exact .inr ⟨rest, rfl, rfl⟩

/-- What is printed without a colon was there before. -/
theorem exists_of_insertFrom_append (hu : ':' ∉ u)
    (h : insertFrom fields truthy past cs = u ++ v) :
    ∃ rest, cs = u ++ rest ∧ v = insertFrom fields truthy (u.reverse ++ past) rest := by
  induction u generalizing past cs with
  | nil => exact ⟨cs, rfl, h.symm⟩
  | cons c u ih =>
    rw [List.mem_cons, not_or] at hu
    obtain ⟨-, rfl, -⟩ | ⟨rest, rfl, hrest⟩ := insertFrom_eq_cons h
    · exact absurd rfl hu.1
    · obtain ⟨rest', rfl, hv⟩ := ih hu.2 hrest.symm
      exact ⟨rest', rfl, by simpa using hv⟩

theorem colon_notMem_of_isWord (hu : ∀ c ∈ u, isWordChar c = true) : ':' ∉ u := by
  intro h
  have hcolon : isWordChar ':' = false := by decide +kernel
  rw [hu _ h] at hcolon
  cases hcolon

theorem colon_notMem_of_isBlank (hu : ∀ c ∈ u, isBlank c = true) : ':' ∉ u := by
  intro h
  have hcolon : isBlank ':' = false := by decide
  rw [hu _ h] at hcolon
  cases hcolon

/-- Behind a sign and blanks no word has begun. -/
theorem not_bare_of_isSign (past : List Char) {sign : Char} (hu : ∀ c ∈ u, isBlank c = true)
    (hsign : sign = ':' ∨ sign = '=') :
    ∀ c ∈ (u.reverse ++ sign :: past).head?, inBareWord c = false := by
  intro c hc
  cases h : u.reverse with
  | nil =>
    rw [h] at hc
    cases hc
    obtain rfl | rfl := hsign <;> decide
  | cons b bs =>
    rw [h] at hc
    cases hc
    exact not_bare_of_isBlank (hu _ (List.mem_reverse.mp (h ▸ List.mem_cons_self)))

section

variable (hfields : AreNames fields)
include hfields

/-- A name that stands alone ends the text with a character of words by both measures. -/
theorem exists_of_standsAlone (h : standsAlone fields past next = true) :
    ∃ d past', past = d :: past' ∧ inBareWord d = true ∧ isWordChar d = true := by
  obtain ⟨hname, -, -⟩ := standsAlone_iff.mp h
  cases past with
  | nil => exact absurd hname (ofList_nil_notMem hfields)
  | cons d past =>
    cases hd : inBareWord d with
    | true =>
      exact ⟨d, past, rfl, hd, hfields.isWord _ hname d (by simp [lastWord, hd])⟩
    | false =>
      rw [show lastWord (d :: past) = [] by simp [lastWord, hd]] at hname
      exact absurd hname (ofList_nil_notMem hfields)

theorem valueOpen_of_standsAlone (h : standsAlone fields past next = true) :
    valueOpen past = false := by
  obtain ⟨d, past, rfl, hd, -⟩ := exists_of_standsAlone hfields h
  exact valueOpen_of_bare hd

/-- Expanding a text twice is expanding it once. -/
theorem insertFrom_insertFrom (htruthy : ∀ c ∈ truthy, inBareWord c = true) (hne : truthy ≠ [])
    (h : Alike past past') :
    insertFrom fields truthy past' (insertFrom fields truthy past cs) =
      insertFrom fields truthy past cs := by
  induction cs generalizing past past' with
  | nil =>
    obtain ⟨-, hins⟩ | ⟨halone, hins⟩ := insertion_eq fields truthy past none
    · have hcopy := insertFrom_inserted fields truthy past' [] htruthy
      rw [List.append_nil] at hcopy
      rw [insertFrom, hins, hcopy, insertFrom, insertion_of_value htruthy, List.append_nil]
    · rw [insertFrom, hins, insertFrom, insertion, if_neg]
      rw [← h.standsAlone, halone]
      exact Bool.false_ne_true
  | cons c rest ih =>
    obtain ⟨halone, hins⟩ | ⟨halone, hins⟩ :=
      insertion_eq fields truthy past (some c)
    · have hbare := not_bare_of_closesName (standsAlone_iff.mp halone).2.2
      have halike : Alike (c :: past) (c :: (truthy.reverse ++ ':' :: past')) :=
        .of_not_bare hbare (by
          rw [valueOpen_of_standsAlone hfields halone, valueOpen_word htruthy hne])
      rw [insertFrom, hins, List.cons_append, insertFrom_inserted _ _ _ _ htruthy, insertFrom,
        insertion_of_value htruthy, List.nil_append, ih halike]
    · have hins' : insertion fields truthy past' (some c) = [] := by
        rw [insertion, if_neg]
        rw [← h.standsAlone, halone]
        exact Bool.false_ne_true
      rw [insertFrom, hins, List.nil_append, insertFrom, hins', List.nil_append, ih (h.cons c)]

/-- The name that an insertion comes behind is longer than a truth word. -/
theorem not_standsAlone_of_isTruth (next : Option Char) {value : List Char} (hvalue : IsTruth value)
    (hpast : ∀ c ∈ past.head?, inBareWord c = false) :
    standsAlone fields (value.reverse ++ past) next = false := by
  rw [Bool.eq_false_iff]
  intro halone
  have hlong := hfields.isLong _ (standsAlone_iff.mp halone).1
  have hshort := hvalue.length_le.2
  have hlast : (lastWord (value.reverse ++ past)).length ≤ value.length := by
    unfold lastWord
    rw [List.takeWhile_append]
    split
    · cases past with
      | nil => simp
      | cons c past => simp [hpast c rfl]
    · simpa using (List.takeWhile_prefix inBareWord (l := value.reverse)).length_le
  rw [String.toList_ofList] at hlong
  omega

/-- A colon that was inserted in the place of a sign makes the sign up, and the truth word that was
inserted with it is the whole of its run. -/
theorem eq_of_inserted {blanks blanks' behind : List Char} (hwords : words.Legible)
    (halone : standsAlone fields (blanks.reverse ++ past) next = true)
    (hblanks : ∀ c ∈ blanks, isBlank c = true) (hblanks' : ∀ c ∈ blanks', isBlank c = true)
    (hvalue : IsTruth value) (hends : EndsRun tail)
    (h : blanks' ++ (value ++ tail) = words.spell true ++ behind) :
    blanks = [] ∧ blanks' = [] ∧ value = words.spell true := by
  have htrue := hwords.isTruth true
  obtain ⟨rfl, hrun⟩ := run_unique hblanks' (List.forall_mem_nil _) hvalue.head_notBlank
    htrue.head_notBlank h
  refine ⟨?_, rfl, hwords.isWhole value hvalue (prefix_of_run htrue.isWord hends hrun.symm)⟩
  obtain ⟨d, past', hd, hbare, -⟩ := exists_of_standsAlone hfields halone
  cases hreverse : blanks.reverse with
  | nil => simpa using hreverse
  | cons b bs =>
    rw [hreverse, List.cons_append, List.cons.injEq] at hd
    have hb := hblanks b (List.mem_reverse.mp (hreverse ▸ List.mem_cons_self))
    rw [hd.1] at hb
    rw [not_bare_of_isBlank hb] at hbare
    cases hbare

/-- A condition of a text with insertions is one that was inserted behind a name that stands alone,
or it was in the text. -/
theorem condition_of_insertFrom (hwords : words.Legible)
    (h : Condition fields (c :: insertFrom fields (words.spell true) (c :: past) rest)
      field gap value tail) :
    (gap = [':'] ∧ value = words.spell true ∧ ∃ behind, c :: rest = field.toList ++ behind ∧
        standsAlone fields (field.toList.reverse ++ past) behind.head? = true) ∨
      ∃ tail, Condition fields (c :: rest) field gap value tail := by
  have hword := hfields.isWord field h.isField
  obtain ⟨f, name, hname⟩ := List.exists_cons_of_ne_nil (h.name_ne_nil hfields)
  obtain ⟨blanks, sign, blanks', hgap, hblanks, hsign, hblanks'⟩ := h.isSign
  have htext := h.text
  rw [hname, hgap, List.cons_append, List.cons.injEq] at htext
  rw [hname] at hword
  obtain ⟨rfl, htext⟩ := htext
  -- the name and the blanks before the sign were there before
  obtain ⟨r₁, rfl, hr₁⟩ := exists_of_insertFrom_append
    (colon_notMem_of_isWord (List.forall_mem_cons.mp hword).2) htext
  rw [List.append_assoc] at hr₁
  obtain ⟨r₂, rfl, hr₂⟩ := exists_of_insertFrom_append (colon_notMem_of_isBlank hblanks) hr₁.symm
  obtain ⟨halone, rfl, behind, hins⟩ | ⟨r₃, rfl, hr₃⟩ := insertFrom_eq_cons hr₂.symm
  · obtain ⟨rfl, rfl, hvalue⟩ :=
      eq_of_inserted hfields hwords halone hblanks hblanks' h.isTruth h.ends hins
    exact .inl ⟨hgap, hvalue, r₂, by simp [hname], by simpa [hname] using halone⟩
  · -- so were the sign and the truth word, and behind that nothing is inserted
    have hcolon : ':' ∉ blanks' ++ value := by
      rw [List.mem_append, not_or]
      exact ⟨colon_notMem_of_isBlank hblanks', colon_notMem_of_isWord h.isTruth.isWord⟩
    obtain ⟨r₄, rfl, hr₄⟩ := exists_of_insertFrom_append (v := tail) hcolon
      (by rw [List.append_assoc]; exact hr₃.symm)
    refine .inr ⟨r₄, ⟨by simp [hname, hgap], h.isField, h.isSign, h.isTruth, ?_⟩⟩
    cases r₄ with
    | nil => simp [EndsRun]
    | cons d r₄ =>
      have hnot := not_standsAlone_of_isTruth hfields (some d) h.isTruth
        (not_bare_of_isSign (blanks.reverse ++ (name.reverse ++ c :: past)) hblanks' hsign)
      have hends := h.ends
      rw [hr₄, List.reverse_append, List.append_assoc, insertFrom, insertion, hnot] at hends
      exact hends

/-- Insertions leave a settled text settled. -/
theorem settled_insertFrom (hwords : words.Fit fields) (past : List Char)
    (hbefore : before.any isWordChar = past.head?.any isWordChar)
    (h : Settled fields words past.head? cs) :
    Settled fields words before (insertFrom fields (words.spell true) past cs) := by
  have hcolon : ∀ c ∈ [':'], isWordChar c = false :=
    List.forall_mem_singleton.mpr (by decide +kernel)
  have htrue := hwords.isTruth true
  have hinserted {before : Option Char} (behind : List Char)
      (h : Settled fields words (lastOf (some ':') (words.spell true)) behind) :
      Settled fields words before (':' :: (words.spell true ++ behind)) :=
    Settled.append (u := [':']) hfields (startless_of_notWord hcolon)
      (Settled.word hfields htrue.isWord (hwords.notName true) h)
  induction cs generalizing past before with
  | nil =>
    obtain ⟨-, hins⟩ | ⟨-, hins⟩ :=
      insertion_eq fields (words.spell true) past none
    all_goals rw [insertFrom, hins]
    · simpa using hinserted [] trivial
    · trivial
  | cons c rest ih =>
    obtain ⟨hhead, hrest⟩ := h
    have hcopied {before : Option Char}
        (hbefore : before.any isWordChar = past.head?.any isWordChar) :
        Settled fields words before
          (c :: insertFrom fields (words.spell true) (c :: past) rest) := by
      refine ⟨fun hb field gap value tail hcond => ?_, ih (c :: past) rfl hrest⟩
      obtain ⟨hgap, rfl, -⟩ | ⟨tail', hcond'⟩ :=
        condition_of_insertFrom hfields hwords.toLegible hcond
      · exact ⟨hgap, by rw [hwords.isTruthy]⟩
      · exact hhead (hbefore ▸ hb) field gap value tail' hcond'
    obtain ⟨halone, hins⟩ | ⟨-, hins⟩ :=
      insertion_eq fields (words.spell true) past (some c)
    all_goals rw [insertFrom, hins]
    · refine hinserted _ (hcopied ?_)
      obtain ⟨d, past, rfl, -, hd⟩ := exists_of_standsAlone hfields halone
      rw [lastOf_of_forall htrue.isWord (List.ne_nil_of_length_pos htrue.length_le.1)]
      simpa using hd.symm
    · exact hcopied hbefore

end

end NetQuery.Spelling
