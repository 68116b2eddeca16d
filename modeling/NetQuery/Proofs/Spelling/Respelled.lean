import NetQuery.Proofs.Query.Placement
import NetQuery.Proofs.Spelling.Expansion
import NetQuery.Proofs.Token.Stretches

namespace NetQuery.Spelling

open Text Lexer Grammar

variable {fields : List String} {words : Words} {entity : Entity} {before : Option Symbol}
  {ts ts' us rest : List Symbol} {a b cs u v gap value tail blanks behind : List Char}
  {field : String} {sign : Char}

theorem Words.Fit.startsWord (h : words.Fit fields) (truth : Bool) :
    ∀ c ∈ words.spell truth, Lexer.startsWord c = true := fun c hc =>
  inBareWord_eq c ▸ h.isBare truth c hc

theorem Words.Fit.inWord (h : words.Fit fields) (truth : Bool) :
    ∀ c ∈ words.spell truth, Lexer.inWord c = true := by
  intro c hc
  simp [Lexer.inWord, h.startsWord truth c hc]

/-- What is declared under a longer name than the star is made of word characters. -/
theorem isWord_of_declaredBy (h : declaredBy entity (String.ofList u) = true)
    (hlong : 1 < u.length) : ∀ c ∈ u, isWordChar c = true := by
  have hnames : entity.fieldNames.all (·.toList.all isWordChar) = true := by
    cases entity <;> decide +kernel
  obtain hstar | hfield := Bool.or_eq_true_iff.mp h
  · have hu : u = Query.matchAllName.toList := by
      rw [← eq_of_beq hstar, String.toList_ofList]
    rw [hu] at hlong
    exact absurd hlong (by decide)
  · have hname := List.all_eq_true.mp hnames _ (Entity.hasField_iff.mp hfield)
    rw [String.toList_ofList] at hname
    exact List.all_eq_true.mp hname

/-- Behind a word a sign is a colon, and the word the declared name of a clause. -/
theorem name_of_sign {word : List Char} {s : Symbol}
    (h : placed (declaredBy entity) before (us ++ wordSymbol word :: s :: ts) rest = true)
    (hs : s = .colon ∨ ∃ op, s = .operator op) :
    s = .colon ∧ wordSymbol word = .field (String.ofList word) ∧
      (lastOf before us).any leadsOn = false ∧ declaredBy entity (String.ofList word) = true := by
  have hword := wellPlaced_of_placed h
  rw [List.append_cons us] at h
  have hsign := wellPlaced_of_placed h
  rw [lastOf_append, lastOf_cons, lastOf_nil] at hsign
  have hkind := wordSymbol_cases word
  obtain rfl | ⟨op, rfl⟩ := hs
  · -- only a field stands before a colon
    have hfield : wordSymbol word = .field (String.ofList word) := by
      obtain (h | h | h) | ⟨-, ⟨w, h⟩ | h⟩ := hkind
      all_goals first
        | exact h
        | rw [h] at hsign; cases hsign
    rw [hfield] at hword
    simp only [wellPlaced, List.cons_append, List.head?_cons, bne_self_eq_false] at hword
    split at hword
    · cases hword
    · next hleads =>
      simp only [Bool.and_eq_true] at hword
      exact ⟨rfl, hfield, by simpa using hleads, hword.1⟩
  · obtain (h | h | h) | ⟨-, ⟨w, h⟩ | h⟩ := hkind
    all_goals
      rw [h] at hsign
      cases hsign

theorem not_inWord_of_sign (hblanks : ∀ c ∈ blanks, isBlank c = true)
    (hsign : sign = ':' ∨ sign = '=') :
    ∀ c ∈ (blanks ++ sign :: behind).head?, inWord c = false := by
  intro c hc
  cases blanks with
  | nil =>
    cases hc
    obtain rfl | rfl := hsign <;> decide
  | cons d blanks =>
    cases hc
    rw [Bool.eq_false_iff]
    intro hword
    have hd := hblanks c List.mem_cons_self
    rw [not_blank_of_inWord hword] at hd
    cases hd

/-- A sign behind blanks is read as a token of its own. -/
theorem exists_of_spells_sign (hblanks : ∀ c ∈ blanks, isBlank c = true)
    (hsign : sign = ':' ∨ sign = '=') (h : Spells (blanks ++ sign :: behind) ts) :
    ∃ s us, ts = s :: us ∧ (s = .colon ∨ ∃ op, s = .operator op) ∧ Spells behind us := by
  have hnotBlank : isBlank sign = false := by
    obtain rfl | rfl := hsign <;> decide
  obtain ⟨s, us, hscan, hus, rfl⟩ := (spells_symbol hnotBlank).mp ((spells_blanks hblanks).mp h)
  obtain rfl | rfl := hsign
  all_goals
    cases hscan
    exact ⟨_, us, rfl, by simp, hus⟩

section

variable (hfields : AreNames fields)
include hfields

theorem inWord_of_mem (hfield : field ∈ fields) : ∀ c ∈ field.toList, inWord c = true := by
  intro c hc
  have hbare := hfields.isBare field hfield c hc
  rw [inBareWord_eq] at hbare
  simp [inWord, hbare]

/-- Where the name of a field begins at a word boundary and a sign follows it, a token begins with
it that is the field of a clause, and the sign is its colon. -/
theorem exists_clause (blanks : List Char) (hfield : field ∈ fields)
    (hs : Spells (a ++ (field.toList ++ (blanks ++ sign :: behind))) ts)
    (hquotes : ∀ c ∈ a, isQuote c = false)
    (hplaced : placed (declaredBy entity) before ts rest = true)
    (hbefore : ∀ c ∈ a.getLast?, inWord c = true → isWordChar c = false)
    (hblanks : ∀ c ∈ blanks, isBlank c = true) (hsign : sign = ':' ∨ sign = '=') :
    ∃ us vs, ts = us ++ .field field :: .colon :: vs ∧ Spells a us ∧
      Spells field.toList [.field field] ∧ Spells behind vs ∧ Apart a field.toList ∧
      (lastOf before us).any leadsOn = false := by
  have hlong := hfields.isLong field hfield
  -- the word that ends with the name begins within the text before the name
  obtain ⟨start, run, rfl, hrun, hstart⟩ := exists_last_run inWord a
  have hword : ∀ c ∈ run ++ field.toList, inWord c = true :=
    List.forall_mem_append.mpr ⟨hrun, inWord_of_mem hfields hfield⟩
  have hlength : 5 < (run ++ field.toList).length := by
    rw [List.length_append]
    omega
  have hne : run ++ field.toList ≠ [] := List.ne_nil_of_length_pos (by omega)
  have hhead : ∀ (x : List Char), ∀ d ∈ ((run ++ field.toList) ++ x).head?, inWord d = true := by
    intro x d hd
    rw [List.head?_append_of_ne_nil _ hne] at hd
    exact hword d (List.mem_of_head? hd)
  rw [List.append_assoc, ← List.append_assoc run] at hs
  obtain ⟨us, _, rfl, hus, hrest⟩ := hs.split
    (run_of_forall fun c hc => hquotes c (List.mem_append_left run hc))
    (Apart.of_inWord hstart (hhead _))
  obtain ⟨hstarts, _, rfl, hgap⟩ :=
    (spells_run hne hword (not_inWord_of_sign hblanks hsign)).mp hrest
  obtain ⟨s, vs, rfl, hs', hbehind⟩ := exists_of_spells_sign hblanks hsign hgap
  obtain ⟨rfl, hsymbol, hleads, hdeclared⟩ := name_of_sign hplaced hs'
  have hall := isWord_of_declaredBy hdeclared (by omega)
  obtain rfl : run = [] := by
    by_contra hrunNe
    have hlast := List.getLast_mem hrunNe
    have hnot := hbefore (run.getLast hrunNe)
      (by rw [List.getLast?_append, List.getLast?_eq_some_getLast hrunNe]; rfl) (hrun _ hlast)
    rw [hall _ (List.mem_append_left _ hlast)] at hnot
    cases hnot
  simp only [List.nil_append, String.ofList_toList] at hsymbol hstarts hword hhead hne ⊢
  have hspelled : Spells (field.toList ++ []) [wordSymbol field.toList] :=
    (spells_run hne hword (by simp)).mpr ⟨hstarts, [], rfl, spells_nil.mpr rfl⟩
  rw [List.append_nil, hsymbol] at hspelled
  rw [List.append_nil, hsymbol]
  exact ⟨us, vs, rfl, hus, hspelled, hbehind,
    Apart.of_inWord hstart (by simpa using hhead []), hleads⟩

end

/-- A word that begins with a truth word, and one that begins with the given word for the same truth
value instead. Where `whole` holds, the word is the truth word itself. -/
inductive SameTruth (words : Words) (whole : Prop) : Symbol → Symbol → Prop where
  | word {value ending : List Char} :
      IsTruth value → (∀ c ∈ value, inWord c = true) → (whole → ending = []) →
      SameTruth words whole (wordSymbol (value ++ ending))
        (wordSymbol (words.spell (isTruthy (String.ofList value)) ++ ending))

/-- Tokens in which some values of boolean fields are respelled. -/
inductive Respelled (fields : List String) (words : Words) (whole : Prop) :
    List Symbol → List Symbol → Prop where
  | nil : Respelled fields words whole [] []
  | same {ts ts' : List Symbol} (s : Symbol) :
      Respelled fields words whole ts ts' → Respelled fields words whole (s :: ts) (s :: ts')
  | value {field : String} {s s' : Symbol} {ts ts' : List Symbol} :
      field ∈ fields → SameTruth words whole s s' → Respelled fields words whole ts ts' →
      Respelled fields words whole (.field field :: .colon :: s :: ts)
        (.field field :: .colon :: s' :: ts')

/-- Whether the truth word of each condition in a text is a whole word, no beginning of a pattern or
a number. -/
def wholeTruths (fields : List String) : Option Char → List Char → Bool
  | _, [] => true
  | before, c :: rest =>
    (assignment? fields before (c :: rest)).all
        (fun a => !((c :: rest).drop a.length).head?.any inWord) &&
      wholeTruths fields (some c) rest

variable {whole : Prop}

theorem Respelled.refl (ts : List Symbol) : Respelled fields words whole ts ts := by
  induction ts with
  | nil => exact .nil
  | cons s ts ih => exact .same s ih

theorem Respelled.append {us' : List Symbol} (h : Respelled fields words whole ts ts')
    (h' : Respelled fields words whole us us') :
    Respelled fields words whole (ts ++ us) (ts' ++ us') := by
  induction h with
  | nil => exact h'
  | same s _ ih => exact .same s ih
  | value hfield hs _ ih => exact .value hfield hs ih

/-- A token that is no field with its colon is kept. -/
theorem Respelled.of_cons {s s' : Symbol} (h : Respelled fields words whole (s :: ts) (s' :: ts'))
    (hs : ∀ name, s = .field name → ts.head? ≠ some .colon) :
    s = s' ∧ Respelled fields words whole ts ts' := by
  cases h with
  | same _ h => exact ⟨rfl, h⟩
  | value => exact absurd rfl (hs _ rfl)

theorem wholeTruths_append {before : Option Char} (h : wholeTruths fields before (u ++ v) = true) :
    wholeTruths fields (lastOf before u) v = true := by
  induction u generalizing before with
  | nil => exact h
  | cons c u ih =>
    rw [List.cons_append, wholeTruths, Bool.and_eq_true] at h
    rw [lastOf_cons]
    exact ih h.2

theorem wholeTruths_congr {before before' : Option Char}
    (h : before.any isWordChar = before'.any isWordChar) :
    wholeTruths fields before cs = wholeTruths fields before' cs := by
  cases cs with
  | nil => rfl
  | cons c rest => simp only [wholeTruths, assignment?_congr h]

/-- Truth words in a text that has tokens without quotes are of words of the language. -/
theorem IsTruth.inWord (hs : Spells (value ++ tail) ts)
    (hquotes : ∀ c ∈ value ++ tail, isQuote c = false) (h : IsTruth value) :
    ∀ c ∈ value, Lexer.inWord c = true := by
  intro c hc
  have hplain := Spells.isPlain hs hquotes c (List.mem_append_left tail hc)
  have hbare := bare_of_isPlain hplain (h.isWord c hc)
  rw [inBareWord_eq] at hbare
  rw [Lexer.inWord, hbare, Bool.true_or]

section

variable (hfields : AreNames fields)
include hfields

/-- Behind a condition, too, every truth word is a whole word, and so is its own. -/
theorem wholeTruths_condition {before : Option Char} (h : Condition fields cs field gap value tail)
    (hbefore : before.any isWordChar = false) (hwhole : wholeTruths fields before cs = true) :
    (∀ c ∈ tail.head?, inWord c = false) ∧
      wholeTruths fields (lastOf none value) tail = true := by
  have hvalue : value ≠ [] := List.ne_nil_of_length_pos h.isTruth.length_le.1
  have htext : cs = (field.toList ++ (gap ++ value)) ++ tail := by simp [h.text]
  constructor
  · have hfound := (assignment?_eq_some hfields).mpr ⟨hbefore, field, gap, value, tail, h, rfl⟩
    obtain ⟨c, rest, rfl⟩ : ∃ c rest, cs = c :: rest :=
      List.exists_cons_of_ne_nil (by simp [htext, hvalue])
    rw [wholeTruths, hfound, Bool.and_eq_true, htext, List.length_append,
      Nat.add_sub_cancel, Option.all_some, List.drop_left] at hwhole
    intro d hd
    simpa [Option.mem_def.mp hd] using hwhole.1
  · rw [htext] at hwhole
    refine (wholeTruths_congr ?_).trans (wholeTruths_append hwhole)
    rw [lastOf_append, lastOf_append, lastOf_of_forall h.isTruth.isWord hvalue,
      lastOf_of_forall h.isTruth.isWord hvalue]

/-- A condition in front of a text whose own conditions are respelled is respelled: its truth word
begins the value behind its colon, and may begin with another one. -/
theorem exists_respelled_condition (hwords : words.Fit fields) {out : List Char}
    {vs : List Symbol} (hcond : Condition fields cs field gap value tail)
    (ha : Spells a us) (hname : Spells field.toList [.field field]) (hapart : Apart a field.toList)
    (hinWord : ∀ c ∈ value, inWord c = true)
    (hvs : Spells (value ++ tail) vs) (hts' : Spells (value ++ out) ts')
    (hplaced : placed (declaredBy entity) (some .colon) vs rest = true)
    (hending : whole → out.takeWhile inWord = [])
    (h : Respelled fields words whole vs ts') :
    ∃ ts'', Spells (a ++ (field.toList ++
        ':' :: (words.spell (isTruthy (String.ofList value)) ++ out))) ts'' ∧
      Respelled fields words whole (us ++ .field field :: .colon :: vs) ts'' := by
  have htruth := hwords.isTruth (isTruthy (String.ofList value))
  have hbare := hwords.startsWord (isTruthy (String.ofList value))
  have hne := List.ne_nil_of_length_pos hcond.isTruth.length_le.1
  have hne' := List.ne_nil_of_length_pos htruth.length_le.1
  obtain ⟨vs, rfl, -⟩ := hvs.exchange hne hinWord hne' hbare
  obtain ⟨ws, rfl, hnew⟩ := hts'.exchange hne hinWord hne' hbare
  obtain ⟨hsame, htail⟩ := h.of_cons fun name hword hcolon => by
    rw [placed, Bool.and_eq_true, hword, List.head?_append, hcolon] at hplaced
    cases hplaced.1
  generalize words.spell (isTruthy (String.ofList value)) ++ out = behind at hnew ⊢
  have hstart : Apart a (field.toList ++ ':' :: behind) :=
    hapart.congr_head (by rw [List.head?_append_of_ne_nil _ (hcond.name_ne_nil hfields)])
  refine ⟨_, ha.append (hname.append hnew.colon (endsWord_colon behind).apart) hstart,
    (Respelled.refl us).append ?_⟩
  rw [hsame]
  exact .value hcond.isField (.word hcond.isTruth hinWord hending) htail

/-- Respelling the conditions of a text without quotes, part of a query on declared fields, changes
values of boolean fields only. The text `a` before the one that is respelled is kept. -/
theorem exists_respelled_plain (hwords : words.Fit fields)
    (hs : Spells (a ++ cs) ts) (hquotes : ∀ c ∈ a ++ cs, isQuote c = false)
    (hplaced : placed (declaredBy entity) before ts rest = true)
    (hwhole : whole → wholeTruths fields (lastOf none a) cs = true) :
    ∃ ts', Spells (a ++ assignFrom fields words (lastOf none a) 0 cs) ts' ∧
      Respelled fields words whole ts ts' := by
  induction hn : cs.length using Nat.strongRecOn generalizing a cs before ts with
  | ind n ih =>
    subst hn
    cases cs with
    | nil => exact ⟨ts, hs, .refl ts⟩
    | cons c cs =>
      obtain ⟨hbefore, field, gap, value, tail, hcond⟩ | ⟨-, hcopy⟩ :=
        assignFrom_cons hfields words (lastOf none a) c cs
      · obtain ⟨blanks, sign, blanks', hgap, hblanks, hsign, hblanks'⟩ := hcond.isSign
        have htext :
            c :: cs = field.toList ++ (blanks ++ sign :: (blanks' ++ (value ++ tail))) := by
          simp [hcond.text, hgap]
        have hlength : tail.length < (c :: cs).length := by
          have := hfields.isLong field hcond.isField
          simp only [htext, List.length_append, List.length_cons]
          omega
        have hvalueQuotes : ∀ d ∈ value ++ tail, isQuote d = false := by
          intro d hd
          refine hquotes d (List.mem_append_right a ?_)
          simp only [htext, List.mem_append, List.mem_cons]
          exact .inr (.inr (.inr (.inr (List.mem_append.mp hd))))
        have hstart : ∀ d ∈ a.getLast?, inWord d = true → isWordChar d = false := by
          intro d hd _
          simpa [lastOf, Option.mem_def.mp hd] using hbefore
        rw [htext] at hs
        obtain ⟨us, vs, rfl, hus, hname, hbehind, hapart, -⟩ :=
          exists_clause hfields blanks hcond.isField hs
            (fun d hd => hquotes d (List.mem_append_left _ hd)) hplaced hstart hblanks hsign
        have hvs := (spells_blanks hblanks').mp hbehind
        have hwhole' (h : whole) := wholeTruths_condition hfields hcond hbefore (hwhole h)
        simp only [placed_append, placed, Bool.and_eq_true] at hplaced
        -- what stands behind the truth word is respelled with the truth word in front of it
        obtain ⟨ts', hts', hrespelled⟩ := ih _ hlength (a := value) hvs hvalueQuotes hplaced.2.2.2
          (fun h => (hwhole' h).2) rfl
        rw [assignFrom_condition hfields hbefore hcond]
        refine exists_respelled_condition hfields hwords hcond hus hname hapart
          (hcond.isTruth.inWord hvs hvalueQuotes) hvs hts' hplaced.2.2.2 (fun h => ?_) hrespelled
        refine takeWhile_eq_nil fun d hd => ?_
        rw [head?_assignFrom hfields] at hd
        exact (hwhole' h).1 d hd
      · rw [hcopy]
        have hlast : lastOf none (a ++ [c]) = some c := by simp [lastOf_append]
        rw [List.append_cons] at hs hquotes ⊢
        rw [← hlast]
        refine ih _ (by simp) hs hquotes hplaced (fun h => ?_) rfl
        rw [hlast]
        exact (Bool.and_eq_true_iff.mp (hwhole h)).2

/-- Respelling the conditions in the plain stretches of a query on declared fields changes values of
boolean fields only. -/
theorem exists_respelled (hwords : words.Fit fields) {ss : List Segment} (h : Segmented ss)
    (hs : Spells (ss.flatMap (·.chars)) ts)
    (hplaced : placed (declaredBy entity) before ts rest = true)
    (hwhole : whole → ∀ s ∈ ss, s.quoted = false → wholeTruths fields none s.chars = true) :
    ∃ ts', Spells ((ss.map (Segment.respelled (assign fields words))).flatMap (·.chars)) ts' ∧
      Respelled fields words whole ts ts' := by
  induction ss generalizing ts before with
  | nil => exact ⟨ts, hs, .refl ts⟩
  | cons s ss ih =>
    obtain ⟨us, vs, rfl, hus, hvs⟩ := h.spells_split hs
    rw [placed_append, Bool.and_eq_true] at hplaced
    obtain ⟨vs', hvs', hrest⟩ := ih h.of_cons hvs hplaced.2 fun hw s hs =>
      hwhole hw s (List.mem_cons_of_mem _ hs)
    rw [List.map_cons, List.flatMap_cons]
    cases hq : s.quoted with
    | true =>
      have hsame : s.respelled (assign fields words) = s := by simp [Segment.respelled, hq]
      rw [hsame]
      exact ⟨us ++ vs', h.spells_append (fun _ => rfl) hus hvs', (Respelled.refl us).append hrest⟩
    | false =>
      have hplain := h.isPlain List.mem_cons_self hq
      obtain ⟨us', hus', hfirst⟩ := exists_respelled_plain hfields (a := []) hwords hus hplain.2
        hplaced.1 fun hw => hwhole hw s List.mem_cons_self hq
      have hchars : (s.respelled (assign fields words)).chars = assign fields words s.chars := by
        simp [Segment.respelled, hq]
      rw [hchars]
      exact ⟨us' ++ vs', h.spells_append (by simp [hq]) hus' hvs', hfirst.append hrest⟩

end

end NetQuery.Spelling
