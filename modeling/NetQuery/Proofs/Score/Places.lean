import NetQuery.Score.Component

namespace NetQuery

namespace Score

open Text QuoteState

/-- Where the splitting of a text stands. -/
structure Place where
  state : QuoteState
  depth : Nat
  deriving DecidableEq

namespace Place

/-- Outside quoted texts and brackets, where blanks separate words. -/
def free : Place := ⟨.outside, 0⟩

def next (p : Place) (c : Char) : Place :=
  ⟨p.state.next c, if p.state.isOutside then bracketDepth p.depth c else p.depth⟩

def run (p : Place) (cs : List Char) : Place :=
  cs.foldl next p

/-- Whether a character at this place separates words. -/
def cuts (p : Place) (c : Char) : Bool :=
  p.state.isOutside && p.depth == 0 && isBlank c

def isUnbroken (p : Place) : List Char → Bool
  | [] => true
  | c :: rest => !p.cuts c && (p.next c).isUnbroken rest

/-- The words from a place on, after the beginning of one, in reverse. -/
def words (p : Place) (reversed cs : List Char) : List (List Char) :=
  wordsFrom p.state p.depth reversed cs

variable {p : Place} {c : Char} {cs rest reversed : List Char}

@[simp] theorem run_nil (p : Place) : p.run [] = p := rfl

@[simp] theorem run_cons (p : Place) (c : Char) (cs : List Char) :
    p.run (c :: cs) = (p.next c).run cs := rfl

theorem run_append (p : Place) (cs ds : List Char) : p.run (cs ++ ds) = (p.run cs).run ds :=
  List.foldl_append

/-- The quotes are followed as everywhere. -/
theorem state_run (p : Place) (cs : List Char) : (p.run cs).state = p.state.run cs := by
  induction cs generalizing p with
  | nil => rfl
  | cons c cs ih => exact ih (p.next c)

theorem isUnbroken_append :
    p.isUnbroken (cs ++ rest) = (p.isUnbroken cs && (p.run cs).isUnbroken rest) := by
  induction cs generalizing p with
  | nil => rfl
  | cons c cs ih => simp only [List.cons_append, isUnbroken, ih, run_cons, Bool.and_assoc]

theorem eq_free_of_cuts (h : p.cuts c = true) : p = free ∧ isBlank c = true := by
  obtain ⟨state, depth⟩ := p
  simp only [cuts, Bool.and_eq_true, beq_iff_eq] at h
  obtain ⟨⟨hstate, rfl⟩, hblank⟩ := h
  obtain rfl := eq_outside hstate
  exact ⟨rfl, hblank⟩

theorem words_nil (p : Place) (reversed : List Char) : p.words reversed [] = closeWord reversed :=
  rfl

theorem words_of_cuts (h : p.cuts c = true) (reversed rest : List Char) :
    p.words reversed (c :: rest) = closeWord reversed ++ p.words [] rest := by
  rw [words, wordsFrom]
  exact if_pos h

theorem words_of_not_cuts (h : p.cuts c = false) (reversed rest : List Char) :
    p.words reversed (c :: rest) = (p.next c).words (c :: reversed) rest := by
  rw [words, wordsFrom]
  exact if_neg (Bool.not_eq_true _ ▸ h)

/-- An unbroken text lengthens the word that it follows. -/
theorem words_of_isUnbroken (h : p.isUnbroken cs = true) (reversed rest : List Char) :
    p.words reversed (cs ++ rest) = (p.run cs).words (cs.reverse ++ reversed) rest := by
  induction cs generalizing p reversed with
  | nil => rfl
  | cons c cs ih =>
    simp only [isUnbroken, Bool.and_eq_true, Bool.not_eq_true'] at h
    rw [List.cons_append, words_of_not_cuts h.1, ih h.2, run_cons, List.reverse_cons,
      List.append_assoc]
    rfl

/-- After the beginning of a word comes the rest of it. -/
theorem exists_words_cons (p : Place) (hne : reversed ≠ []) (cs : List Char) :
    ∃ more rest, p.words reversed cs = (reversed.reverse ++ more) :: rest := by
  induction cs generalizing p reversed with
  | nil => exact ⟨[], [], by simp [words_nil, closeWord, hne]⟩
  | cons c cs ih =>
    cases h : p.cuts c with
    | true => exact ⟨[], p.words [] cs, by simp [words_of_cuts h, closeWord, hne]⟩
    | false =>
      obtain ⟨more, rest, hwords⟩ := ih (p.next c) (List.cons_ne_nil c reversed)
      exact ⟨c :: more, rest, by simp [words_of_not_cuts h, hwords]⟩

/-- Only quotes and opening brackets lead away from the free place. -/
theorem free_next (hquote : isQuote c = false) (hopen : c ≠ '[') : free.next c = free := by
  have hdepth : bracketDepth 0 c = 0 := by simp [bracketDepth, hopen]
  simp [next, free, QuoteState.next, hquote, isOutside, hdepth]

theorem free_next_of_isBlank (h : isBlank c = true) : free.next c = free := by
  refine free_next (Bool.eq_false_iff.mpr fun hquote => ?_) ?_
  · simp only [isQuote, Bool.or_eq_true, beq_iff_eq] at hquote
    obtain rfl | rfl := hquote <;> cases h
  · rintro rfl
    cases h

theorem free_run (h : ∀ c ∈ cs, isQuote c = false ∧ c ≠ '[') : free.run cs = free := by
  induction cs with
  | nil => rfl
  | cons c cs ih =>
    obtain ⟨⟨hquote, hopen⟩, hcs⟩ := List.forall_mem_cons.mp h
    rw [run_cons, free_next hquote hopen, ih hcs]

end Place

/-- A word that can stand anywhere in a text: nothing within it separates words, and behind it
blanks do. -/
structure IsWord (word : List Char) : Prop where
  ne_nil : word ≠ []
  unbroken : Place.free.isUnbroken word = true
  whole : Place.free.run word = .free

open Place (free)

variable {cs rest word reversed : List Char} {c : Char}

theorem mem_closeWord : word ∈ closeWord reversed ↔ reversed ≠ [] ∧ word = reversed.reverse := by
  unfold closeWord
  split <;> simp_all

/-- What has been read of a text is some whole words and the beginning of another one, which leads
to the place that is reached. -/
theorem exists_words_append {p : Place} (hrun : free.run reversed.reverse = p)
    (hunbroken : free.isUnbroken reversed.reverse = true) (cs : List Char) :
    ∃ words last, (∀ word ∈ words, IsWord word) ∧ free.run last.reverse = p.run cs ∧
      free.isUnbroken last.reverse = true ∧
      ∀ rest, p.words reversed (cs ++ rest) = words ++ (p.run cs).words last rest := by
  induction cs generalizing p reversed with
  | nil => exact ⟨[], reversed, by simp, hrun, hunbroken, fun rest => rfl⟩
  | cons c cs ih =>
    rw [Place.run_cons]
    cases hcut : p.cuts c with
    | true =>
      obtain ⟨rfl, hblank⟩ := Place.eq_free_of_cuts hcut
      rw [Place.free_next_of_isBlank hblank]
      have hnil : free.run ([] : List Char).reverse = free := rfl
      obtain ⟨words, last, hwords, hlast, hlast', hrest⟩ := ih hnil rfl
      refine ⟨closeWord reversed ++ words, last, fun word hword => ?_, hlast, hlast',
        fun rest => ?_⟩
      · obtain hword | hword := List.mem_append.mp hword
        · obtain ⟨hne, rfl⟩ := mem_closeWord.mp hword
          exact ⟨by simpa using hne, hunbroken, hrun⟩
        · exact hwords word hword
      · rw [List.cons_append, Place.words_of_cuts hcut, hrest, List.append_assoc]
    | false =>
      have hrun' : free.run (c :: reversed).reverse = p.next c := by
        rw [List.reverse_cons, Place.run_append, hrun]
        rfl
      have hunbroken' : free.isUnbroken (c :: reversed).reverse = true := by
        simp [Place.isUnbroken_append, hunbroken, hrun, Place.isUnbroken, hcut]
      obtain ⟨words, last, hwords, hlast, hlast', hrest⟩ := ih hrun' hunbroken'
      refine ⟨words, last, hwords, hlast, hlast', fun rest => ?_⟩
      rw [List.cons_append, Place.words_of_not_cuts hcut, hrest]

theorem exists_append_of_mem_words {p : Place} (hrun : outside.run reversed.reverse = p.state)
    (hword : word ∈ p.words reversed cs) :
    ∃ pre post, reversed.reverse ++ cs = pre ++ (word ++ post) ∧ outside.run pre = outside := by
  induction cs generalizing p reversed with
  | nil =>
    obtain ⟨-, rfl⟩ := mem_closeWord.mp hword
    exact ⟨[], [], by simp, rfl⟩
  | cons c cs ih =>
    cases hcut : p.cuts c with
    | true =>
      rw [Place.words_of_cuts hcut] at hword
      obtain hword | hword := List.mem_append.mp hword
      · obtain ⟨-, rfl⟩ := mem_closeWord.mp hword
        exact ⟨[], c :: cs, rfl, rfl⟩
      · obtain ⟨rfl, hblank⟩ := Place.eq_free_of_cuts hcut
        have hnil : outside.run ([] : List Char).reverse = free.state := rfl
        have hnext : free.state.next c = outside :=
          congrArg Place.state (Place.free_next_of_isBlank hblank)
        obtain ⟨pre, post, hcs, hpre⟩ := ih hnil hword
        rw [List.reverse_nil, List.nil_append] at hcs
        refine ⟨reversed.reverse ++ c :: pre, post, by simp [hcs], ?_⟩
        rw [run_append, hrun, run_cons, hnext, hpre]
    | false =>
      rw [Place.words_of_not_cuts hcut] at hword
      have hrun' : outside.run (c :: reversed).reverse = (p.next c).state := by
        rw [List.reverse_cons, run_append, hrun]
        rfl
      obtain ⟨pre, post, hcs, hpre⟩ := ih hrun' hword
      exact ⟨pre, post, by simpa using hcs, hpre⟩

/-- A word of a text begins outside quoted texts. -/
theorem exists_append_of_mem_splitWords (hword : word ∈ splitWords cs) :
    ∃ pre post, cs = pre ++ (word ++ post) ∧ outside.run pre = outside := by
  have hnil : outside.run ([] : List Char).reverse = free.state := rfl
  exact exists_append_of_mem_words hnil hword

/-- The words of a text, and of whatever it is the beginning of. -/
theorem exists_splitWords (cs : List Char) :
    ∃ words last, (∀ word ∈ words, IsWord word) ∧ free.run last.reverse = free.run cs ∧
      free.isUnbroken last.reverse = true ∧ splitWords cs = words ++ closeWord last ∧
      ∀ rest, splitWords (cs ++ rest) = words ++ (free.run cs).words last rest := by
  have hnil : free.run ([] : List Char).reverse = free := rfl
  obtain ⟨words, last, hwords, hlast, hlast', hrest⟩ := exists_words_append hnil rfl cs
  have hsplit := hrest []
  rw [List.append_nil] at hsplit
  exact ⟨words, last, hwords, hlast, hlast', hsplit, hrest⟩

/-- The words of a text that is left at the free place can stand anywhere. -/
theorem isWord_of_mem_splitWords (h : free.run cs = free) (hword : word ∈ splitWords cs) :
    IsWord word := by
  obtain ⟨words, last, hwords, hlast, hlast', hsplit, -⟩ := exists_splitWords cs
  rw [hsplit] at hword
  obtain hword | hword := List.mem_append.mp hword
  · exact hwords word hword
  · obtain ⟨hne, rfl⟩ := mem_closeWord.mp hword
    exact ⟨by simpa using hne, hlast', hlast.trans h⟩

/-- A blank behind a text that is left at the free place ends its last word. -/
theorem splitWords_append (h : free.run cs = free) (hc : isBlank c = true) (rest : List Char) :
    splitWords (cs ++ c :: rest) = splitWords cs ++ splitWords rest := by
  obtain ⟨words, last, -, -, -, hsplit, hrest⟩ := exists_splitWords cs
  have hcut : free.cuts c = true := hc
  rw [hrest, h, Place.words_of_cuts hcut, ← List.append_assoc, ← hsplit]
  rfl

/-- What follows a text that is not left at the free place lengthens its last word. -/
theorem exists_splitWords_append (h : free.run cs ≠ free) (rest : List Char) :
    ∃ words last more others, splitWords cs = words ++ [last] ∧ free.run last ≠ free ∧
      splitWords (cs ++ rest) = words ++ (last ++ more) :: others := by
  obtain ⟨words, last, -, hlast, -, hsplit, hrest⟩ := exists_splitWords cs
  have hne : last ≠ [] := by
    rintro rfl
    exact h hlast.symm
  obtain ⟨more, others, hmore⟩ := (free.run cs).exists_words_cons hne rest
  refine ⟨words, last.reverse, more, others, ?_, fun hfree => h (hlast.symm.trans hfree), ?_⟩
  · rw [hsplit, closeWord, if_neg (by simpa using hne)]
  · rw [hrest, hmore]

theorem IsWord.splitWords (h : IsWord word) : splitWords word = [word] := by
  have hwords := Place.words_of_isUnbroken h.unbroken [] []
  rw [h.whole, List.append_nil, List.append_nil] at hwords
  have hclose : closeWord word.reverse = [word] := by simp [closeWord, h.ne_nil]
  exact hwords.trans hclose

/-- Texts that are left at the free place keep their words when they are joined. -/
theorem splitWords_joinWords {texts : List (List Char)} (h : ∀ cs ∈ texts, free.run cs = free) :
    splitWords (joinWords texts) = texts.flatMap splitWords := by
  induction texts with
  | nil => rfl
  | cons cs texts ih =>
    obtain ⟨hcs, htexts⟩ := List.forall_mem_cons.mp h
    cases texts with
    | nil => simp [joinWords]
    | cons ds texts =>
      have hjoin : joinWords (cs :: ds :: texts) = cs ++ ' ' :: joinWords (ds :: texts) := by
        simp [joinWords, List.intercalate_cons_cons]
      rw [hjoin, splitWords_append hcs (by decide), ih htexts, ← List.flatMap_cons]

end Score

end NetQuery
