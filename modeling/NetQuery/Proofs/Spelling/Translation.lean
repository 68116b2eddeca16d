import NetQuery.Proofs.Query.Acceptance
import NetQuery.Proofs.Query.Alike
import NetQuery.Proofs.Spelling.Respelled

namespace NetQuery

open Text Lexer Grammar

theorem Grammar.Derives.getLast?_ne_colon {X : Nonterminal} {ts : List Symbol} {q : Query}
    (h : Derives X ts q) : ts.getLast? ≠ some .colon := by
  intro hlast
  have hcloses := h.closes none rfl
  simp [lastOf, hlast, leadsOn] at hcloses

theorem Grammar.Condition.colon_notMem {name : String} {ts : List Symbol} {q : Query}
    (h : Condition name ts q) : .colon ∉ ts := by
  intro hmem
  cases h.forall_inCondition _ hmem

/-- A word that is no keyword makes a condition. -/
theorem Grammar.exists_condition {word : List Char} (name : String)
    (h : wordSymbol word = .wildcard (String.ofList word) ∨
      wordSymbol word = .field (String.ofList word) ∨
      wordSymbol word = .value (String.ofList word)) :
    ∃ q, Condition name [wordSymbol word] q := by
  obtain h | h | h := h
  all_goals rw [h]
  · exact ⟨_, .pattern _⟩
  · exact ⟨_, .value (.name _) (by simp)⟩
  · exact ⟨_, .value (.word _) (by simp)⟩

/-- A condition that begins with a word is that word. -/
theorem Grammar.Condition.eq_nil_of_word {word : List Char} {name : String} {ts : List Symbol}
    {q : Query} (h : Condition name (wordSymbol word :: ts) q) : ts = [] := by
  generalize hs : wordSymbol word = s at h
  have hkind := wordSymbol_cases word
  rw [hs] at hkind
  cases h with
  | pattern | value => rfl
  | eq | ne | order | range => simp at hkind

namespace Spelling

variable {fields : List String} {words : Words} {whole : Prop} {ts ts' us x : List Symbol}
  {q q' left left' : Query}

/-- One clause, or two on one boolean field with respelled values. -/
inductive SameClause (fields : List String) (words : Words) (whole : Prop) :
    Query → Query → Prop where
  | same (q : Query) : SameClause fields words whole q q
  | value {field : String} {s s' : Symbol} {q q' : Query} :
      field ∈ fields → SameTruth words whole s s' → Grammar.Condition field [s] q →
      Grammar.Condition field [s'] q' → SameClause fields words whole q q'

theorem alike_refl (q : Query) : Query.Alike (SameClause fields words whole) q q := by
  induction q with
  | group _ ih => exact .group ih
  | and _ _ ihl ihr => exact .and ihl ihr
  | or _ _ ihl ihr => exact .or ihl ihr
  | not _ ih => exact .not ih
  | _ => exact .leaf rfl rfl (.same _)

/-- Tokens are respelled part by part, where no condition reaches from one part into the next. -/
theorem Respelled.split (h : Respelled fields words whole (ts ++ us) x)
    (hts : ts.getLast? ≠ some .colon) (hus : us.head? ≠ some .colon) :
    ∃ ts' us', x = ts' ++ us' ∧ Respelled fields words whole ts ts' ∧
      Respelled fields words whole us us' := by
  generalize hall : ts ++ us = all at h
  induction h generalizing ts with
  | nil =>
    obtain ⟨rfl, rfl⟩ := List.append_eq_nil_iff.mp hall
    exact ⟨[], [], rfl, .nil, .nil⟩
  | @same rest rest' s h ih =>
    cases ts with
    | nil => exact ⟨[], s :: rest', rfl, .nil, by simpa [← hall] using Respelled.same s h⟩
    | cons t ts =>
      obtain ⟨rfl, hrest⟩ := List.cons.inj hall
      obtain ⟨ts', us', rfl, hts', hus'⟩ :=
        ih (fun hlast => hts (by simp [List.getLast?_cons, hlast])) hrest
      exact ⟨t :: ts', us', rfl, .same t hts', hus'⟩
  | value hfield hs h ih =>
    -- the parts are cut before the field or behind the value
    rcases ts with _ | ⟨t₁, _ | ⟨t₂, _ | ⟨t₃, ts⟩⟩⟩
    · rw [List.nil_append] at hall
      exact ⟨[], _, rfl, .nil, hall ▸ .value hfield hs h⟩
    · simp_all
    · simp_all
    · simp only [List.cons_append, List.cons.injEq] at hall
      obtain ⟨rfl, rfl, rfl, hrest⟩ := hall
      obtain ⟨ts', us', rfl, hts', hus'⟩ :=
        ih (fun hlast => hts (by simp [List.getLast?_cons, hlast])) hrest
      exact ⟨_, us', rfl, .value hfield hs hts', hus'⟩

theorem Respelled.eq_of_notMem (h : Respelled fields words whole ts x) (hts : .colon ∉ ts) :
    x = ts := by
  induction h with
  | nil => rfl
  | same s _ ih => rw [ih fun h => hts (List.mem_cons_of_mem s h)]
  | value => simp at hts

/-- Phrases of one kind, with queries of one shape for what stands before further operands. -/
inductive AlikePhrases (fields : List String) (words : Words) (whole : Prop) :
    Nonterminal → Nonterminal → Prop where
  | expression : AlikePhrases fields words whole .expression .expression
  | orMore {left left' : Query} : Query.Alike (SameClause fields words whole) left left' →
      AlikePhrases fields words whole (.orMore left) (.orMore left')
  | conjunction : AlikePhrases fields words whole .conjunction .conjunction
  | andMore {left left' : Query} : Query.Alike (SameClause fields words whole) left left' →
      AlikePhrases fields words whole (.andMore left) (.andMore left')
  | negation : AlikePhrases fields words whole .negation .negation
  | primary : AlikePhrases fields words whole .primary .primary

/-- Words of a spelling that are values whatever words they begin. -/
def Words.AreValues (words : Words) : Prop :=
  ∀ name truth ending, ∃ q, Grammar.Condition name [wordSymbol (words.spell truth ++ ending)] q

theorem Encoding.areValues (encoding : Encoding) : encoding.words.AreValues := by
  intro name truth ending
  refine exists_condition name ((wordSymbol_cases _).resolve_right fun h => ?_)
  obtain ⟨⟨hshort, hletter⟩, -⟩ := h
  cases encoding with
  | numeric => cases truth <;> cases hletter
  | literal =>
    have hlong : 3 < (Encoding.literal.words.spell truth).length := by cases truth <;> decide
    rw [List.length_append] at hshort
    omega

theorem Respelled.cons_of_ne {s : Symbol} (h : Respelled fields words whole (s :: ts) x)
    (hs : ∀ name, s ≠ .field name) : ∃ x', x = s :: x' ∧ Respelled fields words whole ts x' := by
  cases h with
  | same _ h => exact ⟨_, rfl, h⟩
  | value => exact absurd rfl (hs _)

/-- A clause with a respelled value is a clause on the same field. -/
theorem Respelled.exists_clause (hwords : words.AreValues) {name : String}
    (h : Grammar.Condition name ts q)
    (hr : Respelled fields words whole (.field name :: .colon :: ts) x) :
    ∃ q', Derives .primary x q' ∧ Query.Alike (SameClause fields words whole) q q' := by
  cases hr with
  | same _ hr =>
    obtain ⟨x', rfl, hcond⟩ := hr.cons_of_ne (by simp)
    rw [hcond.eq_of_notMem h.colon_notMem]
    exact ⟨q, .field h, alike_refl q⟩
  | value hfield hs hr =>
    obtain ⟨htruth, hword, hwhole⟩ := hs
    obtain rfl := h.eq_nil_of_word
    cases hr
    obtain ⟨q', hq'⟩ := hwords name _ _
    exact ⟨q', .field hq', .leaf h.isLeaf hq'.isLeaf
      (.value hfield (.word htruth hword hwhole) h hq')⟩

/-- A phrase and the operands behind it are respelled one after the other. What the phrase is read
as becomes part of what stands before those operands. -/
theorem Respelled.exists_derives_append {X X' Y : Nonterminal} {before : Query → Nonterminal}
    (hr : Respelled fields words whole (ts ++ us) x)
    (hfirst : Derives X ts left) (hmore : Derives Y us q)
    (ihfirst : ∀ {x}, Respelled fields words whole ts x →
      ∃ left', Derives X' x left' ∧ Query.Alike (SameClause fields words whole) left left')
    (ihmore : ∀ {left' x}, Query.Alike (SameClause fields words whole) left left' →
      Respelled fields words whole us x →
      ∃ q', Derives (before left') x q' ∧ Query.Alike (SameClause fields words whole) q q') :
    ∃ ts' us' left' q', x = ts' ++ us' ∧ Derives X' ts' left' ∧ Derives (before left') us' q' ∧
      Query.Alike (SameClause fields words whole) q q' := by
  have hnil : ([] : List Symbol).head? ≠ some .colon := by simp
  have hhead : us.head? ≠ some .colon := by simpa using hmore.head?_ne_colon hnil
  obtain ⟨ts', us', rfl, hts, hus⟩ := hr.split hfirst.getLast?_ne_colon hhead
  obtain ⟨left', hleft, halike⟩ := ihfirst hts
  obtain ⟨q', hq, halike⟩ := ihmore halike hus
  exact ⟨ts', us', left', q', rfl, hleft, hq, halike⟩

/-- Respelled tokens are a phrase of the same shape. -/
theorem Respelled.exists_derives (hwords : words.AreValues) {X X' : Nonterminal}
    (h : Derives X ts q) (hX : AlikePhrases fields words whole X X')
    (hr : Respelled fields words whole ts x) :
    ∃ q', Derives X' x q' ∧ Query.Alike (SameClause fields words whole) q q' := by
  induction h generalizing X' x with
  | expression hfirst hmore ihfirst ihmore =>
    cases hX
    obtain ⟨ts', us', left', q', rfl, hleft, hq, halike⟩ :=
      hr.exists_derives_append hfirst hmore (ihfirst .conjunction) fun h => ihmore (.orMore h)
    exact ⟨q', .expression hleft hq, halike⟩
  | conjunction hfirst hmore ihfirst ihmore =>
    cases hX
    obtain ⟨ts', us', left', q', rfl, hleft, hq, halike⟩ :=
      hr.exists_derives_append hfirst hmore (ihfirst .negation) fun h => ihmore (.andMore h)
    exact ⟨q', .conjunction hleft hq, halike⟩
  | orDone =>
    cases hr
    cases hX with
    | orMore halike => exact ⟨_, .orDone, halike⟩
  | andDone =>
    cases hr
    cases hX with
    | andMore halike => exact ⟨_, .andDone, halike⟩
  | orNext spelling hfirst hmore ihfirst ihmore =>
    obtain ⟨x', rfl, hrest⟩ := hr.cons_of_ne (by simp)
    cases hX with
    | orMore hbefore =>
      obtain ⟨ts', us', right', q', rfl, hright, hq, halike⟩ :=
        hrest.exists_derives_append hfirst hmore (ihfirst .conjunction)
          fun h => ihmore (.orMore (.or hbefore h))
      exact ⟨q', .orNext spelling hright hq, halike⟩
  | andNext spelling hfirst hmore ihfirst ihmore =>
    obtain ⟨x', rfl, hrest⟩ := hr.cons_of_ne (by simp)
    cases hX with
    | andMore hbefore =>
      obtain ⟨ts', us', right', q', rfl, hright, hq, halike⟩ :=
        hrest.exists_derives_append hfirst hmore (ihfirst .negation)
          fun h => ihmore (.andMore (.and hbefore h))
      exact ⟨q', .andNext spelling hright hq, halike⟩
  | andBeside hfirst hmore ihfirst ihmore =>
    cases hX with
    | andMore hbefore =>
      obtain ⟨ts', us', right', q', rfl, hright, hq, halike⟩ :=
        hr.exists_derives_append hfirst hmore (ihfirst .negation)
          fun h => ihmore (.andMore (.and hbefore h))
      exact ⟨q', .andBeside hright hq, halike⟩
  | not spelling _ ih =>
    cases hX
    obtain ⟨x', rfl, hrest⟩ := hr.cons_of_ne (by simp)
    obtain ⟨q', hq, halike⟩ := ih .negation hrest
    exact ⟨.not q', .not spelling hq, .not halike⟩
  | primary _ ih =>
    cases hX
    obtain ⟨q', hq, halike⟩ := ih .primary hr
    exact ⟨q', .primary hq, halike⟩
  | group h ih =>
    cases hX
    obtain ⟨x', rfl, hrest⟩ := hr.cons_of_ne (by simp)
    obtain ⟨ts', us', rfl, hts, hus⟩ := hrest.split h.getLast?_ne_colon (by simp)
    rw [hus.eq_of_notMem (by simp)]
    obtain ⟨q', hq, halike⟩ := ih .expression hts
    exact ⟨.group q', .group hq, .group halike⟩
  | star =>
    cases hX
    rw [hr.eq_of_notMem (by simp)]
    exact ⟨_, .star, alike_refl _⟩
  | field hcond =>
    cases hX
    exact hr.exists_clause hwords hcond

end Spelling

end NetQuery
