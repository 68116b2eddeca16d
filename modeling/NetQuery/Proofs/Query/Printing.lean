import NetQuery.Plan.Predicate
import NetQuery.Proofs.Query.Acceptance

namespace NetQuery

namespace Query

/-- The query with no equals sign before a value: without an operator a clause asks for the same. -/
def withoutEquals : Query → Query
  | field name value (some .eq) => field name value none
  | group body => group body.withoutEquals
  | and left right => and left.withoutEquals right.withoutEquals
  | or left right => or left.withoutEquals right.withoutEquals
  | not operand => not operand.withoutEquals
  | leaf => leaf

@[simp] theorem toText_withoutEquals (q : Query) : q.withoutEquals.toText = q.toText := by
  fun_induction withoutEquals q <;> simp_all [toText]

@[simp] theorem predicate_withoutEquals [Regex.Library] (setting : Setting) (q : Query) :
    q.withoutEquals.predicate setting = q.predicate setting := by
  fun_induction withoutEquals q with
  | case1 name value => simp [predicate, fieldPredicate, Predicate.signed]
  | _ => simp_all [predicate]

@[simp] theorem withoutEquals_withoutEquals (q : Query) :
    q.withoutEquals.withoutEquals = q.withoutEquals := by
  fun_induction withoutEquals q <;> simp_all [withoutEquals]

theorem isLeaf_withoutEquals (q : Query) : q.withoutEquals.isLeaf = q.isLeaf := by
  fun_cases withoutEquals q <;> simp_all [isLeaf, fieldName?]

/-- A clause that its text, without any quotes, is read as again. -/
structure ReadsBack (leaf : Query) : Prop where
  unquoted : ∀ c ∈ leaf.toText.toList, Text.isQuote c = false
  read : (Verdict.ofText leaf.toText none).query = some leaf.withoutEquals

/-- A query all of whose clauses are read back from their texts. -/
def Plain (q : Query) : Prop :=
  ∀ leaf ∈ q.leaves, leaf.ReadsBack

end Query

namespace Grammar

open Lexer

/-- The text of the query is read as a phrase that spells it. -/
def Prints (X : Nonterminal) (q : Query) : Prop :=
  ∃ ts, Spells q.toText.toList ts ∧ Derives X ts q.withoutEquals

variable {ts us : List Symbol} {left right q : Query}

theorem Derives.append_or (h : Derives .expression ts left) (hright : Derives .conjunction us right)
    (spelling : String) :
    Derives .expression (ts ++ .logical .or spelling :: us) (.or left right) := by
  have hmore : ∀ {X : Nonterminal} {ts left}, Derives X ts left → ∀ first, X = .orMore first →
      Derives X (ts ++ .logical .or spelling :: us) (.or left right) := by
    intro X ts left h
    induction h with
    | orDone =>
      rintro first ⟨⟩
      simpa using Derives.orNext spelling hright .orDone
    | orNext word hnext _ _ ih =>
      rintro first ⟨⟩
      simpa using Derives.orNext word hnext (ih _ rfl)
    | _ => rintro first ⟨⟩
  cases h with
  | expression hfirst hrest =>
    rw [List.append_assoc]
    exact .expression hfirst (hmore hrest _ rfl)

theorem Derives.append_and (h : Derives .conjunction ts left) (hright : Derives .negation us right)
    (spelling : String) :
    Derives .conjunction (ts ++ .logical .and spelling :: us) (.and left right) := by
  have hmore : ∀ {X : Nonterminal} {ts left}, Derives X ts left → ∀ first, X = .andMore first →
      Derives X (ts ++ .logical .and spelling :: us) (.and left right) := by
    intro X ts left h
    induction h with
    | andDone =>
      rintro first ⟨⟩
      simpa using Derives.andNext spelling hright .andDone
    | andNext word hnext _ _ ih =>
      rintro first ⟨⟩
      simpa using Derives.andNext word hnext (ih _ rfl)
    | andBeside hnext _ _ ih =>
      rintro first ⟨⟩
      simpa using Derives.andBeside hnext (ih _ rfl)
    | _ => rintro first ⟨⟩
  cases h with
  | conjunction hfirst hrest =>
    rw [List.append_assoc]
    exact .conjunction hfirst (hmore hrest _ rfl)

theorem Derives.expression_of_conjunction (h : Derives .conjunction ts q) :
    Derives .expression ts q := by
  simpa using Derives.expression h .orDone

theorem Derives.conjunction_of_negation (h : Derives .negation ts q) :
    Derives .conjunction ts q := by
  simpa using Derives.conjunction h .andDone

/-- What was read before the further operands is all of the query, or the query is a disjunction. -/
theorem Derives.orMore_cases (h : Derives (.orMore left) ts q) :
    (ts = [] ∧ q = left) ∨ ∃ a b, q = .or a b := by
  suffices hmore : ∀ {X : Nonterminal}, Derives X ts q → ∀ left, X = .orMore left →
      (ts = [] ∧ q = left) ∨ ∃ a b, q = .or a b from hmore h left rfl
  clear h
  intro X h
  induction h with
  | orDone =>
    rintro left ⟨⟩
    exact .inl ⟨rfl, rfl⟩
  | orNext _ _ _ _ ih =>
    rintro left ⟨⟩
    rcases ih _ rfl with ⟨-, rfl⟩ | hor
    · exact .inr ⟨_, _, rfl⟩
    · exact .inr hor
  | _ => rintro left ⟨⟩

theorem Derives.andMore_cases (h : Derives (.andMore left) ts q) :
    (ts = [] ∧ q = left) ∨ ∃ a b, q = .and a b := by
  suffices hmore : ∀ {X : Nonterminal}, Derives X ts q → ∀ left, X = .andMore left →
      (ts = [] ∧ q = left) ∨ ∃ a b, q = .and a b from hmore h left rfl
  clear h
  intro X h
  induction h with
  | andDone =>
    rintro left ⟨⟩
    exact .inl ⟨rfl, rfl⟩
  | andNext _ _ _ _ ih | andBeside _ _ _ ih =>
    rintro left ⟨⟩
    rcases ih _ rfl with ⟨-, rfl⟩ | hand
    · exact .inr ⟨_, _, rfl⟩
    · exact .inr hand
  | _ => rintro left ⟨⟩

/-- A clause is spelled without connectives and parentheses. -/
theorem Derives.primary_of_isLeaf (h : Derives .expression ts q) (hq : q.isLeaf = true) :
    Derives .primary ts q := by
  cases h with
  | expression hfirst hmore =>
    rcases hmore.orMore_cases with ⟨rfl, rfl⟩ | ⟨a, b, rfl⟩
    · cases hfirst with
      | conjunction hfirst hmore =>
        rcases hmore.andMore_cases with ⟨rfl, rfl⟩ | ⟨a, b, rfl⟩
        · cases hfirst with
          | not => cases hq
          | primary h => simpa using h
        · cases hq
    · cases hq

theorem prints_of_readsBack (h : q.ReadsBack) (hq : q.isLeaf = true) : Prints .primary q := by
  obtain ⟨ts, hs, hd, -⟩ := Verdict.query_eq_some_iff.mp h.read
  exact ⟨ts, hs, hd.primary_of_isLeaf (by rw [q.isLeaf_withoutEquals, hq])⟩

theorem Prints.withoutEquals {X : Nonterminal} (h : Prints X q) : Prints X q.withoutEquals := by
  rwa [Prints, Query.toText_withoutEquals, Query.withoutEquals_withoutEquals]

theorem Prints.negation (h : Prints .primary q) : Prints .negation q :=
  h.imp fun _ h => ⟨h.1, .primary h.2⟩

theorem Prints.conjunction (h : Prints .negation q) : Prints .conjunction q :=
  h.imp fun _ h => ⟨h.1, h.2.conjunction_of_negation⟩

theorem Prints.expression (h : Prints .conjunction q) : Prints .expression q :=
  h.imp fun _ h => ⟨h.1, h.2.expression_of_conjunction⟩

theorem Prints.group (h : Prints .expression q) : Prints .primary (.group q) := by
  obtain ⟨ts, hs, hd⟩ := h
  have hclose : Spells [')'] [.closeParen] := spells_lexeme (by decide) rfl
  refine ⟨_, ?_, .group hd⟩
  have htext : (Query.group q).toText.toList = '(' :: (q.toText.toList ++ [')']) := by
    simp [Query.toText]
  rw [htext]
  exact (hs.append hclose (EndsWord.apart (by simp [EndsWord, inWord, startsWord]))).openParen

/-- A keyword between blanks ends the text before it. -/
theorem apart_blank (cs : List Char) {a : List Char} : Apart a (' ' :: cs) := by
  refine EndsWord.apart ?_
  rintro c ⟨⟩
  decide

theorem Prints.not (h : Prints .negation q) : Prints .negation (.not q) := by
  obtain ⟨ts, hs, hd⟩ := h
  have hnot : Spells ['N', 'O', 'T'] [.logical .not "NOT"] := spells_lexeme (by decide) rfl
  refine ⟨_, ?_, .not "NOT" hd⟩
  have htext : (Query.not q).toText.toList = ['N', 'O', 'T'] ++ ' ' :: q.toText.toList := by
    simp [Query.toText]
  rw [htext]
  exact hnot.append hs.blank (apart_blank _)

theorem Prints.and (h : Prints .conjunction left) (h' : Prints .negation right) :
    Prints .conjunction (.and left right) := by
  obtain ⟨ts, hs, hd⟩ := h
  obtain ⟨us, hs', hd'⟩ := h'
  have hand : Spells ['A', 'N', 'D'] [.logical .and "AND"] := spells_lexeme (by decide) rfl
  refine ⟨_, ?_, hd.append_and hd' "AND"⟩
  have htext : (Query.and left right).toText.toList =
      left.toText.toList ++ ' ' :: (['A', 'N', 'D'] ++ ' ' :: right.toText.toList) := by
    simp [Query.toText]
  rw [htext]
  exact hs.append (hand.append hs'.blank (apart_blank _)).blank (apart_blank _)

theorem Prints.or (h : Prints .expression left) (h' : Prints .conjunction right) :
    Prints .expression (.or left right) := by
  obtain ⟨ts, hs, hd⟩ := h
  obtain ⟨us, hs', hd'⟩ := h'
  have hor : Spells ['O', 'R'] [.logical .or "OR"] := spells_lexeme (by decide) rfl
  refine ⟨_, ?_, hd.append_or hd' "OR"⟩
  have htext : (Query.or left right).toText.toList =
      left.toText.toList ++ ' ' :: (['O', 'R'] ++ ' ' :: right.toText.toList) := by
    simp [Query.toText]
  rw [htext]
  exact hs.append (hor.append hs'.blank (apart_blank _)).blank (apart_blank _)

/-- The query and every condition of it are spelled by their texts. -/
structure PrintsAll (X : Nonterminal) (q : Query) : Prop where
  whole : Prints X q
  conditions : ∀ c ∈ q.conjuncts, Prints .expression c

theorem PrintsAll.of_isLeaf (h : q.ReadsBack) (hq : q.isLeaf = true) : PrintsAll .primary q := by
  have hp := prints_of_readsBack h hq
  refine ⟨hp, fun c hc => ?_⟩
  obtain rfl : c = q := by cases q <;> simp_all [Query.conjuncts, Query.isLeaf, Query.fieldName?]
  exact hp.negation.conjunction.expression

/-- What printing makes of a phrase: further operands are printed after the first ones. -/
def Nonterminal.Printed : Nonterminal → Query → Prop
  | orMore left, q => PrintsAll .expression left → PrintsAll .expression q
  | andMore left, q => PrintsAll .conjunction left → PrintsAll .conjunction q
  | X, q => PrintsAll X q

/-- A phrase whose clauses are all read back is itself spelled by its text, and so is every
condition of it. -/
theorem Derives.printed {X : Nonterminal} (h : Derives X ts q) (hq : q.Plain) : X.Printed q := by
  induction h with
  | expression _ hmore ihfirst ihmore =>
    have hfirst := ihfirst fun leaf hl => hq leaf ((hmore.leaves_prefix (.inl rfl)).subset hl)
    exact ihmore hq ⟨hfirst.whole.expression, hfirst.conditions⟩
  | orDone => exact id
  | orNext _ _ hmore ihfirst ihmore =>
    intro hleft
    have hsub := (hmore.leaves_prefix (.inl rfl)).subset
    have hright := ihfirst fun leaf hl => hq leaf (hsub (List.mem_append_right _ hl))
    have hwhole := hleft.whole.or hright.whole
    exact ihmore hq ⟨hwhole, fun c hc => by rwa [List.mem_singleton.mp hc]⟩
  | conjunction _ hmore ihfirst ihmore =>
    have hfirst := ihfirst fun leaf hl => hq leaf ((hmore.leaves_prefix (.inr rfl)).subset hl)
    exact ihmore hq ⟨hfirst.whole.conjunction, hfirst.conditions⟩
  | andDone => exact id
  | andNext _ _ hmore ihfirst ihmore | andBeside _ hmore ihfirst ihmore =>
    intro hleft
    have hsub := (hmore.leaves_prefix (.inr rfl)).subset
    have hright := ihfirst fun leaf hl => hq leaf (hsub (List.mem_append_right _ hl))
    refine ihmore hq ⟨hleft.whole.and hright.whole, fun c hc => ?_⟩
    rcases List.mem_append.mp hc with hc | hc
    · exact hleft.conditions c hc
    · exact hright.conditions c hc
  | not _ _ ih =>
    have hwhole := (ih hq).whole.not
    refine ⟨hwhole, fun c hc => ?_⟩
    rw [List.mem_singleton.mp hc]
    exact hwhole.conjunction.expression
  | primary _ ih => exact ⟨(ih hq).whole.negation, (ih hq).conditions⟩
  | group _ ih => exact ⟨(ih hq).whole.group, (ih hq).conditions⟩
  | star => exact .of_isLeaf (hq _ (by simp [Query.matchAll, Query.leaves])) rfl
  | field hcond =>
    have hleaf := hcond.isLeaf
    exact .of_isLeaf (hq _ (by simp [Query.leaves_of_isLeaf hleaf])) hleaf

/-- Queries that are spelled by one text are equal up to equals signs. -/
theorem Prints.eq_of_toText {q' : Query} (h : Prints .expression q) (h' : Prints .expression q')
    (he : q.toText = q'.toText) : q.withoutEquals = q'.withoutEquals := by
  obtain ⟨ts, hs, hd⟩ := h
  obtain ⟨us, hs', hd'⟩ := h'
  rw [← he] at hs'
  obtain rfl := hs.unique hs'
  exact hd.eq_of_expression hd'

end Grammar

namespace Query

open Grammar Lexer

variable {q : Query}

theorem leaves_withoutEquals (q : Query) :
    q.withoutEquals.leaves = q.leaves.map withoutEquals := by
  fun_induction withoutEquals q with
  | case6 q h₁ h₂ h₃ h₄ h₅ =>
    cases q <;> simp_all [leaves, withoutEquals]
  | _ => simp_all [leaves, withoutEquals]

theorem nesting_withoutEquals (q : Query) : q.withoutEquals.nesting = q.nesting := by
  fun_induction withoutEquals q <;> simp_all [nesting]

theorem printsAll_of_ofText {text : String} {entity : Option Entity}
    (h : (Verdict.ofText text entity).query = some q) (hq : q.Plain) : PrintsAll .expression q := by
  obtain ⟨ts, -, hd, -⟩ := Verdict.query_eq_some_iff.mp h
  exact hd.printed hq

/-- A query whose clauses are all read back from their texts is itself read back from its text, up
to equals signs. -/
theorem ofText_toText {text : String} {entity : Option Entity}
    (h : (Verdict.ofText text entity).query = some q) (hq : q.Plain) :
    (Verdict.ofText q.toText none).query = some q.withoutEquals := by
  obtain ⟨ts, hs, hd⟩ := (printsAll_of_ofText h hq).whole
  obtain ⟨-, -, -, hleaves, hnesting, -⟩ := Verdict.query_eq_some_iff.mp h
  refine Verdict.query_eq_some_iff.mpr ⟨ts, hs, hd, ?_, ?_, by simp⟩
  · rwa [leaves_withoutEquals, List.length_map]
  · rwa [nesting_withoutEquals]

/-- The text of a query whose clauses are all read back has no characters but those of words,
blanks and operators. -/
theorem isPlain_toText (hq : q.Plain) : ∀ c ∈ q.toText.toList, isPlain c = true := by
  have happend : ∀ {s t : String}, (∀ c ∈ s.toList, isPlain c = true) →
      (∀ c ∈ t.toList, isPlain c = true) → ∀ c ∈ (s ++ t).toList, isPlain c = true := by
    intro s t hs ht
    rw [String.toList_append]
    exact List.forall_mem_append.mpr ⟨hs, ht⟩
  have hleaf : ∀ {leaf : Query}, leaf.ReadsBack → ∀ c ∈ leaf.toText.toList, isPlain c = true := by
    intro leaf h
    obtain ⟨ts, hs, -⟩ := Verdict.query_eq_some_iff.mp h.read
    exact hs.isPlain h.unquoted
  have hfixed : ∀ {s : String}, s.toList.all isPlain = true → ∀ c ∈ s.toList, isPlain c = true :=
    List.all_eq_true.mp
  induction q with
  | group body ih => exact happend (happend (hfixed (by decide)) (ih hq)) (hfixed (by decide))
  | and left right ihl ihr =>
    exact happend (happend (ihl fun l hl => hq l (List.mem_append_left _ hl)) (hfixed (by decide)))
      (ihr fun l hl => hq l (List.mem_append_right _ hl))
  | or left right ihl ihr =>
    exact happend (happend (ihl fun l hl => hq l (List.mem_append_left _ hl)) (hfixed (by decide)))
      (ihr fun l hl => hq l (List.mem_append_right _ hl))
  | not operand ih => exact happend (hfixed (by decide)) (ih hq)
  | _ => exact hleaf (hq _ List.mem_cons_self)

end Query

end NetQuery
