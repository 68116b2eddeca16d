import NetQuery.Proofs.Query.Reading

namespace NetQuery

/-- The second list is what is left of the first one where some of the members that may go are
gone. -/
inductive Omits {α : Type} (mayGo : α → Prop) : List α → List α → Prop where
  | nil : Omits mayGo [] []
  | keep (x : α) {xs ys : List α} (h : Omits mayGo xs ys) : Omits mayGo (x :: xs) (x :: ys)
  | drop {x : α} {xs ys : List α} (hx : mayGo x) (h : Omits mayGo xs ys) : Omits mayGo (x :: xs) ys

namespace Omits

variable {α β : Type} {mayGo : α → Prop} {xs ys zs : List α}

theorem refl (xs : List α) : Omits mayGo xs xs := by
  induction xs with
  | nil => exact .nil
  | cons x _ ih => exact .keep x ih

theorem append {xs' ys' : List α} (h : Omits mayGo xs ys) (h' : Omits mayGo xs' ys') :
    Omits mayGo (xs ++ xs') (ys ++ ys') := by
  induction h with
  | nil => exact h'
  | keep x _ ih => exact .keep x ih
  | drop hx _ ih => exact .drop hx ih

theorem map {mayGo' : β → Prop} {f : α → β} (hf : ∀ x, mayGo x → mayGo' (f x))
    (h : Omits mayGo xs ys) : Omits mayGo' (xs.map f) (ys.map f) := by
  induction h with
  | nil => exact .nil
  | keep x _ ih => exact .keep (f x) ih
  | drop hx _ ih => exact .drop (hf _ hx) ih

/-- What is left of two lists is what is left of each. -/
theorem split (h : Omits mayGo (xs ++ ys) zs) :
    ∃ xs' ys', zs = xs' ++ ys' ∧ Omits mayGo xs xs' ∧ Omits mayGo ys ys' := by
  induction xs generalizing zs with
  | nil => exact ⟨[], zs, rfl, .nil, h⟩
  | cons x xs ih =>
    cases h with
    | keep _ h =>
      obtain ⟨xs', ys', rfl, hxs, hys⟩ := ih h
      exact ⟨x :: xs', ys', rfl, .keep x hxs, hys⟩
    | drop hx h =>
      obtain ⟨xs', ys', rfl, hxs, hys⟩ := ih h
      exact ⟨xs', ys', rfl, .drop hx hxs, hys⟩

theorem of_cons {x : α} (h : Omits mayGo (x :: xs) zs) (hx : ¬ mayGo x) :
    ∃ ys, zs = x :: ys ∧ Omits mayGo xs ys := by
  cases h with
  | keep _ h => exact ⟨_, rfl, h⟩
  | drop hgo => exact absurd hgo hx

theorem eq_of_none (h : Omits mayGo xs ys) (hxs : ∀ x ∈ xs, ¬ mayGo x) : ys = xs := by
  induction h with
  | nil => rfl
  | keep x _ ih => rw [ih fun y hy => hxs y (List.mem_cons_of_mem x hy)]
  | drop hx => exact absurd hx (hxs _ List.mem_cons_self)

end Omits

def Symbol.IsAnd (s : Symbol) : Prop :=
  ∃ spelling, s = .logical .and spelling

namespace Grammar

variable {ts us : List Symbol} {q : Query}

theorem Condition.not_isAnd {name : String} (h : Condition name ts q) : ∀ s ∈ ts, ¬ s.IsAnd := by
  rintro s hs ⟨spelling, rfl⟩
  cases h.forall_inCondition _ hs

/-- A phrase without some of its ANDs is a phrase of the same query: each operand that AND joined
stands beside those before it. -/
theorem Derives.of_omits {X : Nonterminal} (h : Derives X ts q) (hus : Omits Symbol.IsAnd ts us) :
    Derives X us q := by
  induction h generalizing us with
  | expression _ _ ihfirst ihmore =>
    obtain ⟨first, more, rfl, hfirst, hmore⟩ := hus.split
    exact .expression (ihfirst hfirst) (ihmore hmore)
  | orDone =>
    cases hus
    exact .orDone
  | orNext spelling _ _ ihfirst ihmore =>
    obtain ⟨rest, rfl, hrest⟩ := hus.of_cons (by simp [Symbol.IsAnd])
    obtain ⟨first, more, rfl, hfirst, hmore⟩ := hrest.split
    exact .orNext spelling (ihfirst hfirst) (ihmore hmore)
  | conjunction _ _ ihfirst ihmore =>
    obtain ⟨first, more, rfl, hfirst, hmore⟩ := hus.split
    exact .conjunction (ihfirst hfirst) (ihmore hmore)
  | andDone =>
    cases hus
    exact .andDone
  | andNext spelling _ _ ihfirst ihmore =>
    cases hus with
    | keep _ hrest =>
      obtain ⟨first, more, rfl, hfirst, hmore⟩ := hrest.split
      exact .andNext spelling (ihfirst hfirst) (ihmore hmore)
    | drop _ hrest =>
      obtain ⟨first, more, rfl, hfirst, hmore⟩ := hrest.split
      exact .andBeside (ihfirst hfirst) (ihmore hmore)
  | andBeside _ _ ihfirst ihmore =>
    obtain ⟨first, more, rfl, hfirst, hmore⟩ := hus.split
    exact .andBeside (ihfirst hfirst) (ihmore hmore)
  | not spelling _ ih =>
    obtain ⟨rest, rfl, hrest⟩ := hus.of_cons (by simp [Symbol.IsAnd])
    exact .not spelling (ih hrest)
  | primary _ ih => exact .primary (ih hus)
  | group _ ih =>
    obtain ⟨rest, rfl, hrest⟩ := hus.of_cons (by simp [Symbol.IsAnd])
    obtain ⟨body, closing, rfl, hbody, hclosing⟩ := hrest.split
    rw [hclosing.eq_of_none (by simp [Symbol.IsAnd])]
    exact .group (ih hbody)
  | star =>
    rw [hus.eq_of_none (by simp [Symbol.IsAnd])]
    exact .star
  | field hcond =>
    obtain ⟨rest, rfl, hrest⟩ := hus.of_cons (by simp [Symbol.IsAnd])
    obtain ⟨condition, rfl, hcondition⟩ := hrest.of_cons (by simp [Symbol.IsAnd])
    rw [hcondition.eq_of_none hcond.not_isAnd]
    exact .field hcond

end Grammar

/-- Tokens that are read as a query are read as the same query without some of their ANDs. -/
theorem Query.ofTokens_of_omits {tokens fewer : Tokens} {q : Query} (h : ofTokens tokens = .ok q)
    (hfewer : Omits (fun t => t.symbol.IsAnd) tokens.items fewer.items) :
    ofTokens fewer = .ok q := by
  obtain ⟨hd, hclauses, hnesting⟩ := ofTokens_eq_ok_iff_derives.mp h
  have hsymbols : Omits Symbol.IsAnd (tokens.items.map Token.symbol)
      (fewer.items.map Token.symbol) := hfewer.map fun _ hx => hx
  exact ofTokens_eq_ok_iff_derives.mpr ⟨hd.of_omits hsymbols, hclauses, hnesting⟩

/-- The second AND of `a:x AND b:1 and NOT (* AND c:[1 TO *])` stays. -/
theorem Query.ofTokens_of_omits_of_two_of_three :
    let head : List Token := [⟨.field "a", ⟨0, 1⟩⟩, ⟨.colon, ⟨1, 2⟩⟩, ⟨.field "x", ⟨2, 3⟩⟩]
    let middle : List Token := [⟨.field "b", ⟨8, 9⟩⟩, ⟨.colon, ⟨9, 10⟩⟩, ⟨.value "1", ⟨10, 11⟩⟩,
      ⟨.logical .and "and", ⟨12, 15⟩⟩, ⟨.logical .not "NOT", ⟨16, 19⟩⟩, ⟨.openParen, ⟨20, 21⟩⟩,
      ⟨.wildcard "*", ⟨21, 22⟩⟩]
    let last : List Token := [⟨.field "c", ⟨27, 28⟩⟩, ⟨.colon, ⟨28, 29⟩⟩, ⟨.openBracket, ⟨29, 30⟩⟩,
      ⟨.value "1", ⟨30, 31⟩⟩, ⟨.rangeTo "TO", ⟨32, 34⟩⟩, ⟨.wildcard "*", ⟨35, 36⟩⟩,
      ⟨.closeBracket, ⟨36, 37⟩⟩, ⟨.closeParen, ⟨37, 38⟩⟩]
    let tokens : Tokens := ⟨head ++ ⟨.logical .and "AND", ⟨4, 7⟩⟩ :: (middle ++
      ⟨.logical .and "AND", ⟨23, 26⟩⟩ :: last), 38⟩
    let fewer : Tokens := ⟨head ++ (middle ++ last), 38⟩
    let q : Query := .and (.and (.field "a" (.text "x") none) (.field "b" (.int 1) none))
      (.not (.group (.and .matchAll (.range "c" (some (.int 1)) none true))))
    ofTokens tokens = .ok q ∧ Omits (fun t => t.symbol.IsAnd) tokens.items fewer.items ∧
      ofTokens fewer = .ok q := by
  intro head middle last tokens fewer q
  have hread : (ofTokens tokens).toOption = some q := by decide +kernel
  have hq : ofTokens tokens = .ok q := by
    cases h : ofTokens tokens with
    | error => simp [h, Except.toOption] at hread
    | ok q' => simpa [h, Except.toOption] using hread
  have hfewer : Omits (fun t => t.symbol.IsAnd) tokens.items fewer.items :=
    (Omits.refl head).append
      (.drop ⟨_, rfl⟩ ((Omits.refl middle).append (.drop ⟨_, rfl⟩ (.refl last))))
  exact ⟨hq, hfewer, ofTokens_of_omits hq hfewer⟩

end NetQuery
