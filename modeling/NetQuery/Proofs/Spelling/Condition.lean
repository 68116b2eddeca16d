import Mathlib.Data.List.Forall2
import NetQuery.Proofs.Plan.Steps
import NetQuery.Proofs.Text.Delimited
import NetQuery.Spelling.Encoding

namespace NetQuery

namespace Text

theorem not_wordChar_of_isBlank {c : Char} (h : isBlank c = true) : isWordChar c = false := by
  obtain ⟨r, hr, hrc⟩ := inRanges_iff.mp h
  rw [Bool.eq_false_iff]
  intro hw
  obtain ⟨w, hw, hwc⟩ := inRanges_iff.mp hw
  -- no word is compared that begins behind the last blank
  have hapart : wordRanges.all (fun w => Nat.blt 0x3000 w.1 ||
      blankRanges.all fun r => r.2.blt w.1 || w.2.blt r.1) = true := by
    decide +kernel
  have hlast : blankRanges.all (fun r => r.2.ble 0x3000) = true := by decide
  have hbound := Nat.le_of_ble_eq_true (List.all_eq_true.mp hlast r hr)
  obtain hfar | hall := Bool.or_eq_true_iff.mp (List.all_eq_true.mp hapart w hw)
  · rw [Nat.blt_eq] at hfar
    omega
  · have hboth := List.all_eq_true.mp hall r hr
    rw [Bool.or_eq_true, Nat.blt_eq, Nat.blt_eq] at hboth
    omega

/-- Below the first letter outside ASCII, word characters are letters, digits and the underscore. -/
theorem isWordChar_of_lt {c : Char} (h : c.toNat < 0xaa) :
    isWordChar c = (c.isAlphanum || c == '_') := by
  have hfirst : wordRanges.take 4 = [(0x30, 0x39), (0x41, 0x5a), (0x5f, 0x5f), (0x61, 0x7a)] := rfl
  have hfar : (wordRanges.drop 4).all (fun r => (0xaa).ble r.1) = true := by decide +kernel
  have hsplit : isWordChar c =
      (inRanges (wordRanges.take 4) c || inRanges (wordRanges.drop 4) c) := by
    rw [isWordChar, ← List.take_append_drop 4 wordRanges]
    exact List.any_append
  have hnone : inRanges (wordRanges.drop 4) c = false := by
    rw [Bool.eq_false_iff, Ne, inRanges_iff]
    rintro ⟨r, hr, hlow, -⟩
    have hbound := Nat.le_of_ble_eq_true (List.all_eq_true.mp hfar r hr)
    omega
  have hunderscore : c = '_' ↔ c.toNat = 0x5f := Char.toNat_inj.symm
  rw [hsplit, hnone, Bool.or_false, hfirst]
  apply Bool.eq_iff_iff.mpr
  simp only [inRanges_iff, Bool.or_eq_true, isAlphanum_iff, beq_iff_eq, hunderscore,
    List.mem_cons, List.not_mem_nil, or_false, exists_eq_or_imp, exists_eq_left]
  omega

/-- Below the first letter outside ASCII that folds, folding is that of ASCII. -/
theorem foldCase_of_lt {c : Char} (h : c.toNat < 0xb5) : foldCase c = c.toLower := by
  have hruns : foldingRuns = ⟨0x41, 0x5a, 1, 0x61⟩ :: foldingRuns.drop 1 := rfl
  have hfar : (foldingRuns.drop 1).all (fun r => (0xb5).ble r.first) = true := by decide
  have hnone : (foldingRuns.drop 1).find? (·.covers c.toNat) = none := by
    rw [List.find?_eq_none]
    intro r hr hcovers
    have hbound := Nat.le_of_ble_eq_true (List.all_eq_true.mp hfar r hr)
    simp only [CaseRun.covers, Bool.and_eq_true, decide_eq_true_eq] at hcovers
    omega
  rw [foldCase, mapRuns, hruns, List.find?_cons, hnone]
  cases hcapital : (CaseRun.mk 0x41 0x5a 1 0x61).covers c.toNat with
  | true =>
    simp only [CaseRun.covers, Bool.and_eq_true, decide_eq_true_eq] at hcapital
    have hlower := toNat_toLower hcapital.1.1 hcapital.1.2
    have hcode : 0x61 + (c.toNat - 0x41) = c.toLower.toNat := by omega
    exact (congrArg Char.ofNat hcode).trans (Char.ofNat_toNat _)
  | false =>
    rcases toLower_cases c with ⟨hlow, hhigh, -⟩ | hsame
    · simp [CaseRun.covers, hlow, hhigh, Nat.mod_one] at hcapital
    · exact hsame.symm

theorem toNat_ofNat (n : Nat) : (Char.ofNat n).toNat = n ∨ (Char.ofNat n).toNat = 0 := by
  by_cases h : n.isValidChar
  · left
    rw [Char.ofNat, dif_pos h]
    rfl
  · right
    rw [Char.ofNat, dif_neg h]
    rfl

/-- What folds to a digit or a small letter of ASCII is a word character. -/
theorem isWordChar_of_foldCase {c : Char} (hlow : '0'.toNat ≤ (foldCase c).toNat)
    (hhigh : (foldCase c).toNat ≤ 'z'.toNat) (hword : isWordChar (foldCase c) = true) :
    isWordChar c = true := by
  have hruns : foldingRuns.all (fun r => Nat.blt 'z'.toNat r.target ||
      wordRanges.any fun w => w.1.ble r.first && r.last.ble w.2) = true := by decide +kernel
  unfold foldCase mapRuns at hlow hhigh hword
  split at hword
  · next r hr =>
    simp only [hr] at hlow hhigh
    have hcovers := List.find?_some hr
    simp only [CaseRun.covers, Bool.and_eq_true, decide_eq_true_eq] at hcovers
    have hrun := List.all_eq_true.mp hruns r (List.mem_of_find?_eq_some hr)
    simp only [Bool.or_eq_true, Nat.blt_eq, List.any_eq_true, Bool.and_eq_true, Nat.ble_eq] at hrun
    obtain hfar | ⟨w, hw, hw₁, hw₂⟩ := hrun
    · have hzero : 0 < '0'.toNat := by decide
      have := toNat_ofNat (r.target + (c.toNat - r.first))
      omega
    · exact inRanges_iff.mpr ⟨w, hw, by omega, by omega⟩
  · exact hword

end Text

namespace Spelling

open Text

variable {cs rest tail gap value : List Char}

/-- A run of word characters ends before this text. -/
def EndsRun (rest : List Char) : Prop :=
  ∀ c ∈ rest.head?, isWordChar c = false

/-- A colon or an equals sign between blanks. -/
def IsSign (gap : List Char) : Prop :=
  ∃ before sign after, gap = before ++ sign :: after ∧ (∀ c ∈ before, isBlank c = true) ∧
    (sign = ':' ∨ sign = '=') ∧ ∀ c ∈ after, isBlank c = true

def IsTruth (value : List Char) : Prop :=
  ∃ word ∈ truthWords, List.Forall₂ (fun w c => sameLetter w c = true) word.toList value

/-- The text begins with a condition that consists of these parts. -/
structure Condition (fields : List String) (cs : List Char) (field : String)
    (gap value rest : List Char) : Prop where
  text : cs = field.toList ++ (gap ++ (value ++ rest))
  isField : field ∈ fields
  isSign : IsSign gap
  isTruth : IsTruth value
  ends : EndsRun rest

/-- What the names of fields are like: they are longer than truth words and made of characters that
are of words by both measures. -/
structure AreNames (fields : List String) : Prop where
  isWord : ∀ field ∈ fields, ∀ c ∈ field.toList, isWordChar c = true
  isBare : ∀ field ∈ fields, ∀ c ∈ field.toList, inBareWord c = true
  isLong : ∀ field ∈ fields, 5 < field.toList.length

theorem areNames_boolean (entity : Entity) : AreNames (entity.namesOfKind .boolean) := by
  have hword : (entity.namesOfKind .boolean).all (·.toList.all isWordChar) = true := by
    cases entity <;> decide
  have hbare : (entity.namesOfKind .boolean).all (·.toList.all inBareWord) = true := by
    cases entity <;> decide
  rw [List.all_eq_true] at hword hbare
  exact ⟨fun field hfield => List.all_eq_true.mp (hword field hfield),
    fun field hfield => List.all_eq_true.mp (hbare field hfield), by cases entity <;> decide⟩

theorem letter_of_truthWord {word : String} {w : Char} (hword : word ∈ truthWords)
    (hw : w ∈ word.toList) : w.isAlphanum = true ∧ foldCase w = w := by
  have hletters : truthWords.all (·.toList.all fun w => w.isAlphanum && w.toLower == w) = true := by
    decide
  have hletter := List.all_eq_true.mp (List.all_eq_true.mp hletters word hword) w hw
  rw [Bool.and_eq_true, beq_iff_eq] at hletter
  have hbounds := isAlphanum_iff.mp hletter.1
  rw [foldCase_of_lt (by omega)]
  exact hletter

theorem IsTruth.isWord (h : IsTruth value) : ∀ c ∈ value, isWordChar c = true := by
  obtain ⟨word, hword, hvalue⟩ := h
  intro c hc
  obtain ⟨w, hw, hwc⟩ := exists_left_of_forall₂ hvalue hc
  obtain ⟨hletter, hfolded⟩ := letter_of_truthWord hword hw
  have hbounds := isAlphanum_iff.mp hletter
  have hends : '0'.toNat = 0x30 ∧ 'z'.toNat = 0x7a := by decide
  have hsame : foldCase c = w := (eq_of_beq hwc).symm.trans hfolded
  apply isWordChar_of_foldCase <;> rw [hsame]
  · omega
  · omega
  · rw [isWordChar_of_lt (by omega), hletter, Bool.true_or]

theorem IsTruth.length_le (h : IsTruth value) : 1 ≤ value.length ∧ value.length ≤ 5 := by
  obtain ⟨word, hword, hvalue⟩ := h
  have hlengths : ∀ word ∈ truthWords, 1 ≤ word.toList.length ∧ word.toList.length ≤ 5 := by decide
  rw [← hvalue.length_eq]
  exact hlengths word hword

theorem IsSign.ne_nil (h : IsSign gap) : gap ≠ [] := by
  obtain ⟨before, sign, after, rfl, _⟩ := h
  simp

theorem IsSign.notWord (h : IsSign gap) : ∀ c ∈ gap, isWordChar c = false := by
  obtain ⟨before, sign, after, rfl, hbefore, hsign, hafter⟩ := h
  intro c hc
  rw [List.mem_append, List.mem_cons] at hc
  obtain hc | rfl | hc := hc
  · exact not_wordChar_of_isBlank (hbefore c hc)
  · obtain rfl | rfl := hsign <;> rw [isWordChar_of_lt (by decide)] <;> decide
  · exact not_wordChar_of_isBlank (hafter c hc)

theorem dropFolded?_eq_some {word : List Char} : dropFolded? word cs = some rest ↔
    ∃ value, cs = value ++ rest ∧ List.Forall₂ (fun w c => sameLetter w c = true) word value := by
  induction word generalizing cs with
  | nil =>
    rw [dropFolded?, Option.some.injEq]
    constructor
    · rintro rfl
      exact ⟨[], rfl, .nil⟩
    · rintro ⟨_, rfl, ⟨⟩⟩
      rfl
  | cons w word ih =>
    cases cs with
    | nil => simp [dropFolded?.eq_2]
    | cons c cs =>
      rw [dropFolded?]
      split
      · next hsame =>
        rw [ih]
        constructor
        · rintro ⟨value, rfl, hvalue⟩
          exact ⟨c :: value, rfl, .cons hsame hvalue⟩
        · rintro ⟨_, hcs, hvalue⟩
          cases hvalue with
          | cons _ hvalue =>
            obtain ⟨rfl, rfl⟩ := List.cons.inj hcs
            exact ⟨_, rfl, hvalue⟩
      · next hother =>
        simp only [reduceCtorEq, false_iff]
        rintro ⟨_, hcs, hvalue⟩
        cases hvalue with
        | cons hsame _ =>
          obtain ⟨rfl, rfl⟩ := List.cons.inj hcs
          exact hother hsame

theorem dropExact?_eq_some {word : List Char} :
    dropExact? word cs = some rest ↔ cs = word ++ rest := by
  induction word generalizing cs with
  | nil => simp [dropExact?.eq_1, eq_comm]
  | cons w word ih =>
    cases cs with
    | nil => simp [dropExact?.eq_2]
    | cons c cs =>
      rw [dropExact?, List.cons_append, List.cons.injEq, ← ih, eq_comm (a := c)]
      split <;> simp_all

/-- A run that is not empty ends where a boundary lies behind it. -/
theorem isWordBoundary_getLast? {run : List Char} (hrun : ∀ c ∈ run, isWordChar c = true)
    (hne : run ≠ []) : isWordBoundary run.getLast? rest.head? = true ↔ EndsRun rest := by
  have hlast : run.getLast?.any isWordChar = true := by
    rw [List.getLast?_eq_some_getLast hne]
    exact hrun _ (List.getLast_mem hne)
  unfold isWordBoundary EndsRun
  rw [hlast]
  cases rest.head? <;> simp

/-- What the search for one truth word finds. -/
theorem truthWord?_step {word : String} (hword : word ∈ truthWords) :
    (match dropFolded? word.toList cs with
      | some rest =>
        let written := cs.take word.length
        if isWordBoundary written.getLast? rest.head? then some written else none
      | none => none) = some value ↔
    ∃ rest, cs = value ++ rest ∧ List.Forall₂ (fun w c => sameLetter w c = true) word.toList value ∧
      EndsRun rest := by
  have htake {value rest : List Char} (hcs : cs = value ++ rest)
      (hvalue : List.Forall₂ (fun w c => sameLetter w c = true) word.toList value) :
      cs.take word.length = value ∧
        (isWordBoundary value.getLast? rest.head? = true ↔ EndsRun rest) := by
    have htruth : IsTruth value := ⟨word, hword, hvalue⟩
    refine ⟨?_, isWordBoundary_getLast? htruth.isWord
      (List.ne_nil_of_length_pos htruth.length_le.1)⟩
    rw [hcs, ← String.length_toList, hvalue.length_eq, List.take_left]
  constructor
  · intro h
    split at h
    · next rest hrest =>
      obtain ⟨value', hcs, hvalue'⟩ := dropFolded?_eq_some.mp hrest
      obtain ⟨hwritten, hboundary⟩ := htake hcs hvalue'
      simp only [hwritten] at h
      split at h
      · next hends =>
        cases h
        exact ⟨rest, hcs, hvalue', hboundary.mp hends⟩
      · cases h
    · cases h
  · rintro ⟨rest, hcs, hvalue, hends⟩
    obtain ⟨hwritten, hboundary⟩ := htake hcs hvalue
    simp [dropFolded?_eq_some.mpr ⟨value, hcs, hvalue⟩, hwritten, hboundary.mpr hends]

/-- The truth word found at the start of a text is a run there that is a truth word. -/
theorem truthWord?_eq_some : truthWord? cs = some value ↔
    ∃ rest, cs = value ++ rest ∧ IsTruth value ∧ EndsRun rest := by
  have hfound {value : List Char} (h : truthWord? cs = some value) :
      ∃ rest, cs = value ++ rest ∧ IsTruth value ∧ EndsRun rest := by
    obtain ⟨word, hword, h⟩ := List.exists_of_findSome?_eq_some h
    obtain ⟨rest, hcs, hvalue, hends⟩ := (truthWord?_step hword).mp h
    exact ⟨rest, hcs, ⟨word, hword, hvalue⟩, hends⟩
  refine ⟨hfound, fun ⟨rest, hcs, htruth, hends⟩ => ?_⟩
  obtain ⟨word, hword, hvalue⟩ := htruth
  obtain ⟨value', hvalue'⟩ : ∃ value', truthWord? cs = some value' := by
    refine Option.isSome_iff_exists.mp (List.findSome?_isSome_iff.mpr ⟨word, hword, ?_⟩)
    exact Option.isSome_iff_exists.mpr
      ⟨value, (truthWord?_step hword).mpr ⟨rest, hcs, hvalue, hends⟩⟩
  -- both runs begin the text and end at a boundary, so they are one
  obtain ⟨rest', hcs', htruth', hends'⟩ := hfound hvalue'
  obtain ⟨rfl, -⟩ := run_unique htruth'.isWord (IsTruth.isWord ⟨word, hword, hvalue⟩) hends' hends
    (hcs'.symm.trans hcs)
  exact hvalue'

theorem dropBlanks_append {blanks : List Char} (hblanks : ∀ c ∈ blanks, isBlank c = true)
    (hrest : ∀ c ∈ rest.head?, isBlank c = false) : dropBlanks (blanks ++ rest) = rest :=
  dropWhile_run hblanks hrest

theorem exists_dropBlanks (cs : List Char) :
    ∃ blanks, cs = blanks ++ dropBlanks cs ∧ ∀ c ∈ blanks, isBlank c = true :=
  ⟨cs.takeWhile isBlank, List.takeWhile_append_dropWhile.symm,
    fun _ hc => List.all_eq_true.mp List.all_takeWhile _ hc⟩

theorem IsTruth.isWord_head (h : IsTruth value) :
    ∀ c ∈ (value ++ rest).head?, isWordChar c = true := by
  obtain ⟨v, value, rfl⟩ := List.exists_cons_of_ne_nil (List.ne_nil_of_length_pos h.length_le.1)
  rintro c ⟨⟩
  exact h.isWord v List.mem_cons_self

theorem IsTruth.head_notBlank (h : IsTruth value) :
    ∀ c ∈ (value ++ rest).head?, isBlank c = false := by
  intro c hc
  rw [Bool.eq_false_iff]
  intro hblank
  have := h.isWord_head c hc
  rw [not_wordChar_of_isBlank hblank] at this
  cases this

/-- What is found behind the name of a field is a sign and a truth word. -/
theorem afterField?_eq_some : afterField? cs = some (value, tail) ↔
    ∃ gap, cs = gap ++ (value ++ tail) ∧ IsSign gap ∧ IsTruth value ∧ EndsRun tail := by
  unfold afterField?
  constructor
  · intro h
    obtain ⟨before, hcs, hbefore⟩ := exists_dropBlanks cs
    split at h
    · next sign rest hdrop =>
      rw [hdrop] at hcs
      simp only at h
      split at h
      · next hsign =>
        obtain ⟨value', hvalue', heq⟩ := Option.map_eq_some_iff.mp h
        obtain ⟨tail', hrest, htruth, hends⟩ := truthWord?_eq_some.mp hvalue'
        obtain ⟨after, hafter, hblank⟩ := exists_dropBlanks rest
        rw [hrest, List.drop_left, Prod.mk.injEq] at heq
        obtain ⟨rfl, rfl⟩ := heq
        refine ⟨before ++ sign :: after, ?_, ⟨before, sign, after, rfl, hbefore, ?_, hblank⟩,
          htruth, hends⟩
        · rw [hcs, hafter, hrest]
          simp
        · simpa using hsign
      · cases h
    · cases h
  · rintro ⟨_, rfl, ⟨before, sign, after, rfl, hbefore, hsign, hafter⟩, htruth, hends⟩
    have hnotBlank : isBlank sign = false := by
      obtain rfl | rfl := hsign <;> decide
    have hword : truthWord? (value ++ tail) = some value :=
      truthWord?_eq_some.mpr ⟨tail, rfl, htruth, hends⟩
    have hbeq : (sign == ':' || sign == '=') = true := by simpa using hsign
    rw [List.append_assoc, dropBlanks_append hbefore (by rintro c ⟨⟩; exact hnotBlank)]
    simp [hbeq, dropBlanks_append hafter htruth.head_notBlank, hword]

namespace Condition

variable {fields : List String} {field field' : String} {gap' value' rest' : List Char}
  {before : Option Char}

theorem isWord_head (hfields : AreNames fields) (h : Condition fields cs field gap value rest) :
    cs.head?.any isWordChar = true := by
  have hlong := hfields.isLong field h.isField
  obtain ⟨c, name, hname⟩ := List.exists_cons_of_ne_nil
    (List.ne_nil_of_length_pos (Nat.zero_lt_of_lt hlong))
  have hc := hfields.isWord field h.isField c (hname ▸ List.mem_cons_self)
  simp [h.text, hname, hc]

theorem ends_name (h : Condition fields cs field gap value rest) :
    EndsRun (gap ++ (value ++ rest)) := by
  obtain ⟨g, gap', hgap⟩ := List.exists_cons_of_ne_nil h.isSign.ne_nil
  have hg := h.isSign.notWord g (hgap ▸ List.mem_cons_self)
  rintro c hc
  rw [hgap] at hc
  cases hc
  exact hg

/-- The parts of a condition are told from the text. -/
theorem unique (hfields : AreNames fields) (h : Condition fields cs field gap value rest)
    (h' : Condition fields cs field' gap' value' rest') :
    field = field' ∧ gap = gap' ∧ value = value' ∧ rest = rest' := by
  obtain ⟨hfield, htail⟩ := run_unique (hfields.isWord field h.isField)
    (hfields.isWord field' h'.isField) h.ends_name h'.ends_name (h.text.symm.trans h'.text)
  -- signs and blanks are not of words, and the truth word behind them is
  obtain ⟨rfl, hvalue⟩ := run_unique (p := fun c => !isWordChar c)
    (fun c hc => by simpa using h.isSign.notWord c hc)
    (fun c hc => by simpa using h'.isSign.notWord c hc)
    (fun c hc => by simpa using h.isTruth.isWord_head c hc)
    (fun c hc => by simpa using h'.isTruth.isWord_head c hc) htail
  obtain ⟨rfl, rfl⟩ := run_unique h.isTruth.isWord h'.isTruth.isWord h.ends h'.ends hvalue
  exact ⟨String.toList_injective hfield, rfl, rfl, rfl⟩

end Condition

variable {fields : List String} {before : Option Char} {a : Assignment}

/-- What the search finds for one field. -/
theorem assignment?_step {field : String} (hfield : field ∈ fields) :
    ((dropExact? field.toList cs).bind fun rest =>
        (afterField? rest).map fun (word, tail) =>
          (⟨field, isTruthy (String.ofList word), cs.length - tail.length⟩ : Assignment)) = some a ↔
      ∃ gap value rest, Condition fields cs field gap value rest ∧
        a = ⟨field, isTruthy (String.ofList value), cs.length - rest.length⟩ := by
  simp only [Option.bind_eq_some_iff, Option.map_eq_some_iff, Prod.exists, dropExact?_eq_some,
    afterField?_eq_some]
  constructor
  · rintro ⟨_, hcs, value, rest, ⟨gap, rfl, hsign, htruth, hends⟩, rfl⟩
    exact ⟨gap, value, rest, ⟨hcs, hfield, hsign, htruth, hends⟩, rfl⟩
  · rintro ⟨gap, value, rest, h, rfl⟩
    exact ⟨_, h.text, value, rest, ⟨gap, rfl, h.isSign, h.isTruth, h.ends⟩, rfl⟩

/-- The search finds the condition that a text begins with, where a word can begin. -/
theorem assignment?_eq_some (hfields : AreNames fields) :
    assignment? fields before cs = some a ↔ before.any isWordChar = false ∧
      ∃ field gap value rest, Condition fields cs field gap value rest ∧
        a = ⟨field, isTruthy (String.ofList value), cs.length - rest.length⟩ := by
  have hboundary {field : String} {gap value rest : List Char}
      (h : Condition fields cs field gap value rest) :
      isWordBoundary before cs.head? = true ↔ before.any isWordChar = false := by
    simp [isWordBoundary, h.isWord_head hfields]
  have hfound {a : Assignment} (h : assignment? fields before cs = some a) :
      before.any isWordChar = false ∧
      ∃ field gap value rest, Condition fields cs field gap value rest ∧
        a = ⟨field, isTruthy (String.ofList value), cs.length - rest.length⟩ := by
    unfold assignment? at h
    split at h
    · next hbefore =>
      obtain ⟨field, hfield, h⟩ := List.exists_of_findSome?_eq_some h
      obtain ⟨gap, value, rest, h, ha⟩ := (assignment?_step hfield).mp h
      exact ⟨(hboundary h).mp hbefore, field, gap, value, rest, h, ha⟩
    · cases h
  refine ⟨hfound, fun ⟨hbefore, field, gap, value, rest, h, ha⟩ => ?_⟩
  obtain ⟨a', ha'⟩ : ∃ a', assignment? fields before cs = some a' := by
    unfold assignment?
    rw [if_pos ((hboundary h).mpr hbefore)]
    refine Option.isSome_iff_exists.mp (List.findSome?_isSome_iff.mpr ⟨field, h.isField, ?_⟩)
    exact Option.isSome_iff_exists.mpr
      ⟨a, (assignment?_step h.isField).mpr ⟨gap, value, rest, h, ha⟩⟩
  -- a condition at the start of the text is the only one there
  obtain ⟨-, field', gap', value', rest', h', rfl⟩ := hfound ha'
  obtain ⟨rfl, rfl, rfl, rfl⟩ := h.unique hfields h'
  rw [ha', ha]

end Spelling

end NetQuery
