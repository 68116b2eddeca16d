import NetQuery.Proofs.Query.Counters

namespace NetQuery

open NetQuery.Parser

namespace Machine

variable {tokens : Tokens} {m m₀ m' : Machine} {t : Token} {why : Diagnostic}

/-- The answer is there as soon as the calls may nest deep enough. -/
def Returns {α : Type} (run : Nat → Option α) (answer : α) : Prop :=
  ∃ n, ∀ calls, n ≤ calls → run calls = some answer

section

variable {α β : Type} {run run' : Nat → Option α} {a : α} {b : β}

theorem Returns.of_eq (h : ∀ n, run n = some a) : Returns run a :=
  ⟨0, fun calls _ => h calls⟩

theorem Returns.step (h : Returns run a) (hrun : ∀ n, run' (n + 1) = run n) : Returns run' a := by
  obtain ⟨n, hn⟩ := h
  refine ⟨n + 1, fun calls hcalls => ?_⟩
  obtain ⟨k, rfl⟩ := Nat.exists_eq_add_of_le' (Nat.le_trans (Nat.le_add_left 1 n) hcalls)
  rw [hrun]
  exact hn k (Nat.le_of_succ_le_succ hcalls)

theorem Returns.succ (h : Returns (fun n => run (n + 1)) a) : Returns run a :=
  h.step fun _ => rfl

theorem Returns.both {run' : Nat → Option β} (h : Returns run a) (h' : Returns run' b) :
    ∃ n, ∀ calls, n ≤ calls → run calls = some a ∧ run' calls = some b := by
  obtain ⟨n, hn⟩ := h
  obtain ⟨n', hn'⟩ := h'
  refine ⟨max n n', fun calls hcalls => ?_⟩
  exact ⟨hn calls (Nat.le_trans (Nat.le_max_left ..) hcalls),
    hn' calls (Nat.le_trans (Nat.le_max_right ..) hcalls)⟩

theorem Returns.map (h : Returns run a) (f : α → β) : Returns (fun n => (run n).map f) (f a) := by
  obtain ⟨n, hn⟩ := h
  refine ⟨n, fun calls hcalls => ?_⟩
  simp only [hn calls hcalls, Option.map_some]

theorem Returns.bind {more : Nat → α → Option β} (h : Returns run a)
    (h' : Returns (fun n => more n a) b) : Returns (fun n => run n >>= more n) b := by
  obtain ⟨n, hn⟩ := h.both h'
  refine ⟨n, fun calls hcalls => ?_⟩
  obtain ⟨hrun, hmore⟩ := hn calls hcalls
  simp only [hrun, Option.bind_eq_bind, Option.bind_some]
  exact hmore

theorem Returns.unique {a' : α} (h : Returns run a) (h' : Returns run a') : a = a' := by
  obtain ⟨n, hn⟩ := h.both h'
  obtain ⟨hrun, hrun'⟩ := hn n (Nat.le_refl n)
  exact Option.some.inj (hrun.symm.trans hrun')

end

/-- The reading returns, and agrees with the outcome of the reader without counters. -/
def Reads (tokens : Tokens) (m : Machine) (o : Outcome Query) (run : Nat → Option (Answer Query)) :
    Prop :=
  ∃ r, Returns run r ∧ Agrees tokens m o r

namespace Reads

variable {o : Outcome Query} {run run' : Nat → Option (Answer Query)} {r : Answer Query}

theorem step (h : Reads tokens m o run) (hrun : ∀ n, run' (n + 1) = run n) :
    Reads tokens m o run' := by
  obtain ⟨r, hr, hagrees⟩ := h
  exact ⟨r, hr.step hrun, hagrees⟩

theorem answer (h : Agrees tokens m o r) (hrun : ∀ n, run (n + 1) = some r) :
    Reads tokens m o run :=
  ⟨r, (Returns.of_eq fun _ => rfl).step hrun, h⟩

theorem done (h : Agrees tokens m o r) : Reads tokens m o fun _ => some r :=
  ⟨r, .of_eq fun _ => rfl, h⟩

theorem since (h : Since tokens m m') (h' : Reads tokens m' o run) : Reads tokens m o run := by
  obtain ⟨r, hr, hagrees⟩ := h'
  exact ⟨r, hr, hagrees.since h⟩

theorem bind {k : Query → Cursor → Outcome Query}
    {k' : Nat → Query → Machine → Option (Answer Query)} : Reads tokens m o run →
    (∀ q m', Since tokens m m' → m.position < m'.position →
      Reads tokens m (k q (m'.cursor tokens)) (fun n => k' n q m')) →
    Reads tokens m
      (match o with | .fail why after => .fail why after | .ok q after => k q after)
      (fun n => do
        match ← run n with
        | (.error why, m) => return (.error why, m)
        | (.ok q, m) => k' n q m) := by
  intro h hk
  obtain ⟨r, hr, hagrees⟩ := h
  cases hagrees with
  | fail hstop => exact ⟨_, hr.bind (.of_eq fun n => rfl), .fail hstop⟩
  | ok hsince hlt =>
    obtain ⟨r', hr', hagrees'⟩ := hk _ _ hsince hlt
    exact ⟨r', hr.bind hr', hagrees'⟩

theorem fail {c : Cursor} (k : Nat → Query → Machine → Option (Answer Query)) :
    Reads tokens m (.fail why c) run →
    Reads tokens m (.fail why c)
      (fun n => do
        match ← run n with
        | (.error why, m) => return (.error why, m)
        | (.ok q, m) => k n q m) := by
  intro h
  obtain ⟨r, hr, hagrees⟩ := h
  cases hagrees with
  | fail hstop => exact ⟨_, hr.bind (.of_eq fun n => rfl), .fail hstop⟩

end Reads

theorem length_rest_lt (h : m.peek tokens = some t) (hlt : m.position < m'.position) :
    (m'.rest tokens).length < (m.rest tokens).length := by
  have hlen := (position_advance h).2
  simp only [rest, List.length_drop]
  omega

/-- In front of a token other than AND, the conjunction goes on only where a clause can begin. -/
theorem conjunctionFrom_of_peek (left : Query) (hpeek : m.peek tokens = some t)
    (hand : ∀ spelling span, t ≠ ⟨.logical .and spelling, span⟩) (n : Nat) :
    conjunctionFrom tokens (n + 1) left m =
      if startsClause t.symbol then conjunctionWith tokens n left m else some (.ok left, m) := by
  rw [conjunctionFrom, hpeek]
  split
  · next spelling span heq => exact absurd (Option.some.inj heq) (hand spelling span)
  · next heq =>
    cases heq
    rfl
  · next heq => cases heq

/-- A token that begins neither a group nor the clause of a field is a star, or has no place. -/
theorem primary_of_peek (hpeek : m.peek tokens = some t)
    (hopen : ∀ span, t ≠ ⟨.openParen, span⟩) (hfield : ∀ name span, t ≠ ⟨.field name, span⟩)
    (n : Nat) : primary tokens (n + 1) m =
      if isStar t.symbol then some (m.counted t.span fun m => (.ok .matchAll, m.advance tokens))
      else some (.error ⟨.unexpected t, some t.span⟩, m) := by
  rw [primary, hpeek]
  split
  · next heq => exact absurd (Option.some.inj heq) (hopen _)
  · next heq => exact absurd (Option.some.inj heq) (hfield _ _)
  · next heq =>
    cases heq
    rfl
  · next heq => cases heq

section

variable {operand : Cursor → Outcome Query} {depth : Nat} {left : Query}
  (hoperand : ∀ m, m.depth = depth →
    Reads tokens m (operand (m.cursor tokens)) fun n => negation tokens n m)
include hoperand

theorem conjunctionWith_reads {k : Query → Cursor → Outcome Query} (hdepth : m.depth = depth)
    (hk : ∀ right m', Since tokens m m' → m.position < m'.position →
      Reads tokens m (k right (m'.cursor tokens))
        fun n => conjunctionFrom tokens n (.and left right) m') :
    Reads tokens m
      (match operand (m.cursor tokens) with
        | .fail why after => .fail why after | .ok right after => k right after)
      fun n => conjunctionWith tokens n left m :=
  ((hoperand m hdepth).bind hk).step fun _ => rfl

/-- The machine reads an operand at least before it goes on, so the guards of the reader without
counters, which bound the recursion, are passed. -/
theorem conjunctionFrom_reads (hm : Since tokens m₀ m) (hlt : m₀.position < m.position)
    (hdepth : m.depth = depth) (left : Query) :
    Reads tokens m₀ (Parser.conjunctionFrom operand left (m.cursor tokens))
      fun n => conjunctionFrom tokens n left m := by
  induction hlen : (m.rest tokens).length using Nat.strongRecOn generalizing m₀ m left with
  | ind k ih =>
    subst hlen
    have hmore : ∀ t m₁, m.peek tokens = some t → Since tokens m m₁ → ∀ right m',
        Since tokens m₁ m' → m₁.position < m'.position →
        Reads tokens m₁
          (if _h : (m'.cursor tokens).rest.length < (m.cursor tokens).rest.length then
            Parser.conjunctionFrom operand (.and left right) (m'.cursor tokens)
          else .ok (.and left right) (m'.cursor tokens))
          fun n => conjunctionFrom tokens n (.and left right) m' := by
      intro t m₁ ht hm₁ right m' hm' hlt'
      have hlen : (m'.cursor tokens).rest.length < (m.cursor tokens).rest.length :=
        length_rest_lt ht (Nat.lt_of_le_of_lt hm₁.forward hlt')
      rw [dif_pos hlen]
      exact ih _ hlen hm' hlt' (hm'.depth.trans (hm₁.depth.trans hdepth)) _ rfl
    have hleave : Agrees tokens m₀ (.ok left (m.cursor tokens)) (.ok left, m) := .ok hm hlt
    unfold Parser.conjunctionFrom
    simp only [cursor_rest]
    split
    · next spelling span rest hrest =>
      obtain ⟨hpeek, rfl⟩ := peek_of_rest hrest
      have hadvance : Since tokens m (m.advance tokens) := .advance hpeek
      rw [← atEnd_eq]
      by_cases hend : (m.advance tokens).atEnd tokens = true
      · rw [if_pos hend]
        refine .answer ((hm.trans hadvance).fail _ _ (by simp)) fun n => ?_
        rw [conjunctionFrom, hpeek]
        exact if_pos hend
      · rw [if_neg hend]
        apply Reads.since (hm.trans hadvance)
        refine (conjunctionWith_reads hoperand (hadvance.depth.trans hdepth)
          (hmore _ _ hpeek hadvance)).step fun n => ?_
        rw [conjunctionFrom, hpeek]
        exact if_neg hend
    · next t rest hand hrest =>
      obtain ⟨hpeek, rfl⟩ := peek_of_rest hrest
      have hrun := conjunctionFrom_of_peek left hpeek hand
      by_cases hstarts : startsClause t.symbol = true
      · rw [if_pos hstarts]
        apply Reads.since hm
        refine (conjunctionWith_reads hoperand hdepth (hmore _ _ hpeek (.refl m))).step fun n => ?_
        rw [hrun, if_pos hstarts]
      · rw [if_neg hstarts]
        refine .answer hleave fun n => ?_
        rw [hrun, if_neg hstarts]
    · next hrest =>
      refine .answer hleave fun n => ?_
      rw [conjunctionFrom, peek_of_rest_nil hrest]
      rfl

theorem conjunction_reads (hdepth : m.depth = depth) :
    Reads tokens m (Parser.conjunction operand (m.cursor tokens))
      fun n => conjunction tokens n m := by
  unfold Parser.conjunction
  exact ((hoperand m hdepth).bind fun left m' hm' hlt' =>
    conjunctionFrom_reads hoperand hm' hlt' (hm'.depth.trans hdepth) left).step fun _ => rfl

theorem disjunctionFrom_reads (hm : Since tokens m₀ m) (hlt : m₀.position < m.position)
    (hdepth : m.depth = depth) (left : Query) :
    Reads tokens m₀ (Parser.disjunctionFrom operand left (m.cursor tokens))
      fun n => disjunctionFrom tokens n left m := by
  induction hlen : (m.rest tokens).length using Nat.strongRecOn generalizing m₀ m left with
  | ind k ih =>
    subst hlen
    unfold Parser.disjunctionFrom
    simp only [cursor_rest]
    split
    · next spelling span rest hrest =>
      obtain ⟨hpeek, rfl⟩ := peek_of_rest hrest
      have hadvance : Since tokens m (m.advance tokens) := .advance hpeek
      rw [← atEnd_eq]
      by_cases hend : (m.advance tokens).atEnd tokens = true
      · rw [if_pos hend]
        refine .answer ((hm.trans hadvance).fail _ _ (by simp)) fun n => ?_
        rw [disjunctionFrom, hpeek]
        exact if_pos hend
      · rw [if_neg hend]
        apply Reads.since (hm.trans hadvance)
        have hdepth₁ : (m.advance tokens).depth = depth := hadvance.depth.trans hdepth
        have hmore : ∀ right m', Since tokens (m.advance tokens) m' →
            (m.advance tokens).position < m'.position → Reads tokens (m.advance tokens)
              (if _h : (m'.cursor tokens).rest.length < (m.rest tokens).length then
                Parser.disjunctionFrom operand (.or left right) (m'.cursor tokens)
              else .ok (.or left right) (m'.cursor tokens))
              fun n => disjunctionFrom tokens n (.or left right) m' := by
          intro right m' hm' hlt'
          have hlen : (m'.cursor tokens).rest.length < (m.rest tokens).length :=
            length_rest_lt hpeek (Nat.lt_of_le_of_lt hadvance.forward hlt')
          rw [dif_pos hlen]
          exact ih _ hlen hm' hlt' (hm'.depth.trans hdepth₁) _ rfl
        refine ((conjunction_reads hoperand hdepth₁).bind hmore).step fun n => ?_
        rw [disjunctionFrom, hpeek]
        exact if_neg hend
    · next hor =>
      refine .answer (.ok hm hlt) fun n => ?_
      rw [disjunctionFrom]
      split
      · next hpeek => exact absurd (rest_of_peek hpeek) (hor _ _ _)
      · rfl

theorem disjunction_reads (hdepth : m.depth = depth) :
    Reads tokens m (Parser.disjunction operand (m.cursor tokens))
      fun n => disjunction tokens n m := by
  unfold Parser.disjunction
  exact ((conjunction_reads hoperand hdepth).bind fun left m' hm' hlt' =>
    disjunctionFrom_reads hoperand hm' hlt' (hm'.depth.trans hdepth) left).step fun _ => rfl

end

/-- Entering a level and leaving it again keeps the depth. -/
theorem Kept.shallower (h : Kept tokens m.deeper m') : Kept tokens m m'.shallower := by
  refine ⟨?_, h.forward, h.within⟩
  rw [Machine.shallower, h.depth]
  rfl

theorem Agrees.shallower {o : Outcome Query} {r : Answer Query} (h : Agrees tokens m.deeper o r) :
    Agrees tokens m o (r.1, r.2.shallower) := by
  cases h with
  | ok hsince hlt =>
    have hback : Since tokens m (Machine.shallower _) :=
      ⟨hsince.toKept.shallower, hsince.exhausted, hsince.clauses⟩
    exact .ok hback hlt
  | fail hstop =>
    have hback : Stopped tokens m _ (Machine.shallower _) :=
      ⟨hstop.toKept.shallower, hstop.exhausted, hstop.clauses⟩
    exact .fail hback

theorem Agrees.not {o : Outcome Query} {r : Answer Query} (h : Agrees tokens m o r) :
    Agrees tokens m (o.map .not) (r.1.map .not, r.2) := by
  cases h with
  | ok hsince hlt => exact .ok hsince hlt
  | fail hstop => exact .fail hstop

/-- At the limit an expression fails, and the counter is set back. -/
theorem expression_tooDeep (h : maxDepth ≤ m.depth) :
    Reads tokens m (.fail ⟨.tooDeep, some (m.nextSpan tokens)⟩ (m.cursor tokens))
      fun n => expression tokens n m := by
  refine .answer ((Since.refl m).fail _ _ (by simp)) fun n => ?_
  rw [expression]
  exact if_pos (Nat.lt_succ_of_le h)

theorem expression_reads {clause : Cursor → Outcome Query} (h : m.depth < maxDepth)
    (hclause : ∀ m', m'.depth = m.depth + 1 →
      Reads tokens m' (clause (m'.cursor tokens)) fun n => negation tokens n m') :
    Reads tokens m (Parser.disjunction clause (m.cursor tokens)) fun n =>
      expression tokens n m := by
  obtain ⟨r, hr, hagrees⟩ := disjunction_reads (m := m.deeper) hclause rfl
  have hrun : ∀ n, expression tokens (n + 1) m =
      (disjunction tokens n m.deeper).map fun r => (r.1, r.2.shallower) := by
    intro n
    rw [expression, Option.map_eq_bind]
    exact if_neg (Nat.not_lt.mpr h)
  exact ⟨_, (hr.map _).step hrun, hagrees.shallower⟩

/-- What reads the clauses one level deeper; there is nothing at the greatest depth. -/
def Nested (tokens : Tokens) (depth : Nat) : Option (Cursor → Outcome Query) → Prop
  | none => maxDepth ≤ depth
  | some clause => depth < maxDepth ∧ ∀ m, m.depth = depth + 1 →
      Reads tokens m (clause (m.cursor tokens)) fun n => negation tokens n m

variable {inner : Option (Cursor → Outcome Query)}

theorem group_tooDeep (h : maxDepth ≤ m.depth) :
    Reads tokens m (.fail ⟨.tooDeep, some (m.nextSpan tokens)⟩ (m.cursor tokens))
      fun n => group tokens n m :=
  ((expression_tooDeep h).fail fun _ body m => some (m.closeGroup tokens body)).step fun _ => rfl

theorem group_reads {clause : Cursor → Outcome Query} (h : Nested tokens m.depth (some clause)) :
    Reads tokens m
      (match Parser.disjunction clause (m.cursor tokens) with
        | .fail why after => .fail why after
        | .ok body after =>
          match after.rest with
          | ⟨.closeParen, _⟩ :: rest => .ok (.group body) { after with rest }
          | _ => .fail ⟨.openGroup, some (Parser.nextSpan after)⟩ after)
      fun n => group tokens n m :=
  ((expression_reads h.1 h.2).bind fun body _ hm' hlt' =>
    .done (closeGroup_agrees hm' hlt' body)).step fun _ => rfl

theorem primary_reads (h : Nested tokens m.depth inner)
    (hnot : ∀ spelling span, m.peek tokens ≠ some ⟨.logical .not spelling, span⟩) :
    Reads tokens m (clauseWith inner (m.cursor tokens)) fun n => primary tokens n m := by
  unfold clauseWith
  simp only [cursor_rest]
  split
  · next hrest => exact absurd (peek_of_rest hrest).1 (hnot _ _)
  · next rest hrest =>
    obtain ⟨hpeek, rfl⟩ := peek_of_rest hrest
    have hrun : ∀ n, primary tokens (n + 1) m = group tokens n (m.advance tokens) := by
      intro n
      rw [primary, hpeek]
    apply Reads.since (.advance hpeek)
    cases inner with
    | none =>
      have hdeep : maxDepth ≤ (m.advance tokens).depth := h
      have hgroup : Reads tokens (m.advance tokens) _ fun n => primary tokens n m :=
        (group_tooDeep hdeep).step hrun
      rw [← nextSpan_cursor] at hgroup
      exact hgroup
    | some clause => exact (group_reads (m := m.advance tokens) h).step hrun
  · next name span rest hrest =>
    obtain ⟨hpeek, rfl⟩ := peek_of_rest hrest
    have hfield : Agrees tokens m.tallied
        (Parser.fieldClause name span ((m.tallied.advance tokens).cursor tokens))
        (m.tallied.fieldClause tokens name span) := fieldClause_agrees name span hpeek
    refine .answer (counted_agrees hfield) fun n => ?_
    rw [primary, hpeek]
    rfl
  · next t rest hnot' hopen hfield hrest =>
    obtain ⟨hpeek, rfl⟩ := peek_of_rest hrest
    have hrun := primary_of_peek hpeek hopen hfield
    by_cases hstar : isStar t.symbol = true
    · have htallied : m.tallied.peek tokens = some t := hpeek
      have hcounted : Agrees tokens m
          (Parser.counted t.span (m.cursor tokens) fun c =>
            .ok .matchAll { c with rest := (m.advance tokens).rest tokens })
          (m.counted t.span fun m => (.ok .matchAll, m.advance tokens)) :=
        counted_agrees (.ok (.advance htallied) (lt_advance htallied))
      rw [if_pos hstar]
      refine .answer hcounted fun n => ?_
      rw [hrun, if_pos hstar]
    · rw [if_neg hstar]
      refine .answer ((Since.refl m).fail _ _ (by simp)) fun n => ?_
      rw [hrun, if_neg hstar]
  · next hrest =>
    rw [nextSpan_cursor]
    refine .answer ((Since.refl m).fail _ _ (by simp)) fun n => ?_
    rw [primary, peek_of_rest_nil hrest]
    rfl

theorem negation_reads (h : Nested tokens m.depth inner) :
    Reads tokens m (clauseWith inner (m.cursor tokens)) fun n => negation tokens n m := by
  by_cases hnot : ∃ spelling span, m.peek tokens = some ⟨.logical .not spelling, span⟩
  · obtain ⟨spelling, span, hpeek⟩ := hnot
    have hadvance : Since tokens m (m.advance tokens) := .advance hpeek
    unfold clauseWith
    rw [cursor_rest, rest_of_peek hpeek]
    simp only [isDangling_rest]
    by_cases hdangling : isDangling ((m.advance tokens).peek tokens).toList = true
    · rw [if_pos hdangling]
      refine .answer (hadvance.fail _ _ (by simp)) fun n => ?_
      rw [negation, hpeek]
      exact if_pos hdangling
    · rw [if_neg hdangling]
      have hrun : ∀ n, negation tokens (n + 1) m =
          if maxDepth < m.depth + 1 then
            some (.error ⟨.tooDeep, some span⟩, m.advance tokens)
          else (negation tokens n (m.advance tokens).deeper).map fun r =>
            (r.1.map .not, r.2.shallower) := by
        intro n
        rw [negation, hpeek, Option.map_eq_bind]
        exact if_neg hdangling
      cases inner with
      | none =>
        refine .answer (hadvance.fail _ _ (by simp)) fun n => ?_
        rw [hrun, if_pos (Nat.lt_succ_of_le h)]
      | some clause =>
        obtain ⟨r, hr, hagrees⟩ := h.2 (m.advance tokens).deeper rfl
        have hnext : ∀ n, negation tokens (n + 1) m =
            (negation tokens n (m.advance tokens).deeper).map fun r =>
              (r.1.map .not, r.2.shallower) := by
          intro n
          rw [hrun, if_neg (Nat.not_lt.mpr h.1)]
        exact ⟨_, (hr.map _).step hnext, hagrees.not.shallower.since hadvance⟩
  · simp only [not_exists] at hnot
    refine (primary_reads h hnot).step fun n => ?_
    rw [negation]
    split
    · next hpeek => exact absurd hpeek (hnot _ _)
    · rfl

/-- The reader without counters may go as many levels deeper as the counter is below the limit. -/
theorem clause_reads (levels : Nat) (m : Machine) (h : maxDepth - m.depth = levels) :
    Reads tokens m (Parser.clause levels (m.cursor tokens)) fun n => negation tokens n m := by
  induction levels generalizing m with
  | zero =>
    have hnested : Nested tokens m.depth none := Nat.le_of_sub_eq_zero h
    exact negation_reads hnested
  | succ levels ih =>
    have hnested : Nested tokens m.depth (some (Parser.clause levels)) := by
      refine ⟨by omega, fun m' hm' => ih m' ?_⟩
      omega
    exact negation_reads hnested

theorem expression_agrees (h : m.depth < maxDepth) :
    Reads tokens m
      (Parser.disjunction (Parser.clause (maxDepth - (m.depth + 1))) (m.cursor tokens))
      fun n => expression tokens n m := by
  refine expression_reads h fun m' hm' => ?_
  apply clause_reads
  rw [hm']

end Machine

end NetQuery
