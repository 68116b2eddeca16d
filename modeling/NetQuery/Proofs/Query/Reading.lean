import NetQuery.Proofs.Query.Grammar

namespace NetQuery

/-- The largest number of groups and negations around one clause. -/
def Query.nesting : Query → Nat
  | group body => body.nesting + 1
  | not operand => operand.nesting + 1
  | and left right | or left right => max left.nesting right.nesting
  | _ => 0

/-- The clauses that were read before a phrase of this kind and belong to its query. -/
def Grammar.Nonterminal.clausesBefore : Grammar.Nonterminal → Nat
  | orMore left | andMore left => left.leaves.length
  | _ => 0

/-- Reading goes on at `after` once tokens with these symbols are taken and `count` clauses are
counted. -/
structure Cursor.Takes (c : Cursor) (ts : List Symbol) (count : Nat) (after : Cursor) : Prop where
  rest : ∃ used, used.map Token.symbol = ts ∧ c.rest = used ++ after.rest
  finish : after.finish = c.finish
  clauses : after.clauses = c.clauses + count

namespace Cursor.Takes

variable {c mid after : Cursor} {ts us : List Symbol} {m n : Nat}

theorem refl (c : Cursor) : c.Takes [] 0 c := ⟨⟨[], rfl, rfl⟩, rfl, rfl⟩

theorem trans (h : c.Takes ts m mid) (h' : mid.Takes us n after) :
    c.Takes (ts ++ us) (m + n) after := by
  obtain ⟨used, rfl, hused⟩ := h.rest
  obtain ⟨used', rfl, hused'⟩ := h'.rest
  refine ⟨⟨used ++ used', by simp, by rw [hused, hused', List.append_assoc]⟩, ?_, ?_⟩
  · rw [h'.finish, h.finish]
  · rw [h'.clauses, h.clauses, Nat.add_assoc]

/-- Taking some tokens passes every place between them. -/
theorem split (h : c.Takes (ts ++ us) n after) (hm : m ≤ n) :
    ∃ mid, c.Takes ts m mid ∧ mid.Takes us (n - m) after ∧ mid.clauses ≤ after.clauses := by
  obtain ⟨used, hmap, hused⟩ := h.rest
  obtain ⟨used₁, used₂, rfl, rfl, rfl⟩ := List.map_eq_append_iff.mp hmap
  have hclauses := h.clauses
  refine ⟨⟨used₂ ++ after.rest, c.finish, c.clauses + m⟩, ⟨⟨used₁, rfl, ?_⟩, rfl, rfl⟩,
    ⟨⟨used₂, rfl, rfl⟩, h.finish, ?_⟩, ?_⟩
  · rw [hused, List.append_assoc]
  · simp only
    omega
  · simp only
    omega

theorem cons {t : Token} {rest : List Token} (hc : c.rest = t :: rest)
    (h : Cursor.Takes { c with rest } ts n after) : c.Takes (t.symbol :: ts) n after := by
  obtain ⟨used, rfl, hused⟩ := h.rest
  exact ⟨⟨t :: used, rfl, by rw [hc, List.cons_append, ← hused]⟩, h.finish, h.clauses⟩

theorem of_cons {s : Symbol} (h : c.Takes (s :: ts) n after) :
    ∃ t rest, c.rest = t :: rest ∧ t.symbol = s ∧ Cursor.Takes { c with rest } ts n after := by
  obtain ⟨used, hmap, hused⟩ := h.rest
  obtain ⟨t, used, rfl, rfl, rfl⟩ := List.map_eq_cons_iff.mp hmap
  exact ⟨t, used ++ after.rest, hused, rfl, ⟨used, rfl, rfl⟩, h.finish, h.clauses⟩

theorem counted (h : Cursor.Takes { c with clauses := c.clauses + 1 } ts n after) :
    c.Takes ts (n + 1) after := by
  refine ⟨h.rest, h.finish, ?_⟩
  rw [h.clauses, Nat.add_assoc, Nat.add_comm 1]

theorem of_counted (h : c.Takes ts (n + 1) after) :
    Cursor.Takes { c with clauses := c.clauses + 1 } ts n after := by
  refine ⟨h.rest, h.finish, ?_⟩
  rw [h.clauses]
  simp only
  omega

/-- Where no clause is counted the cursor keeps everything but the tokens. -/
theorem after_eq (h : c.Takes ts 0 after) : after = { c with rest := after.rest } := by
  obtain ⟨rest, finish, clauses⟩ := after
  cases h.finish
  cases h.clauses
  rfl

theorem eq_of_nil (h : c.Takes [] 0 after) : after = c := by
  obtain ⟨used, hmap, hused⟩ := h.rest
  obtain rfl := List.map_eq_nil_iff.mp hmap
  rw [h.after_eq, ← show c.rest = after.rest from hused]

theorem symbols (h : c.Takes ts n after) :
    c.rest.map Token.symbol = ts ++ after.rest.map Token.symbol := by
  obtain ⟨used, rfl, hused⟩ := h.rest
  rw [hused, List.map_append]

theorem length_lt (h : c.Takes ts n after) (hts : ts ≠ []) : after.rest.length < c.rest.length := by
  obtain ⟨used, rfl, hused⟩ := h.rest
  have : used ≠ [] := by simpa using hts
  rw [hused, List.length_append]
  have := List.length_pos_iff.mpr this
  omega

end Cursor.Takes

theorem Query.leaves_of_isLeaf {q : Query} (h : q.isLeaf = true) : q.leaves = [q] := by
  cases q <;> first | rfl | cases h

theorem Query.nesting_of_isLeaf {q : Query} (h : q.isLeaf = true) : q.nesting = 0 := by
  cases q <;> first | rfl | cases h

namespace Grammar

theorem Condition.isLeaf {name : String} {ts : List Symbol} {q : Query}
    (h : Condition name ts q) : q.isLeaf = true := by
  cases h <;> rfl

/-- What was read before a phrase stays part of its query, and comes first. -/
theorem Derives.leaves_prefix {X : Nonterminal} {ts : List Symbol} {left q : Query}
    (h : Derives X ts q) (hX : X = .orMore left ∨ X = .andMore left) :
    left.leaves <+: q.leaves := by
  induction h generalizing left with
  | orDone | andDone =>
    obtain ⟨⟨⟩⟩ | ⟨⟨⟩⟩ := hX
    exact List.prefix_rfl
  | orNext _ _ _ _ ih =>
    obtain ⟨⟨⟩⟩ | ⟨⟨⟩⟩ := hX
    exact (List.prefix_append ..).trans (ih (.inl rfl))
  | andNext _ _ _ _ ih | andBeside _ _ _ ih =>
    obtain ⟨⟨⟩⟩ | ⟨⟨⟩⟩ := hX
    exact (List.prefix_append ..).trans (ih (.inr rfl))
  | _ => obtain ⟨⟨⟩⟩ | ⟨⟨⟩⟩ := hX

theorem Derives.nesting_le {X : Nonterminal} {ts : List Symbol} {left q : Query}
    (h : Derives X ts q) (hX : X = .orMore left ∨ X = .andMore left) :
    left.nesting ≤ q.nesting := by
  induction h generalizing left with
  | orDone | andDone =>
    obtain ⟨⟨⟩⟩ | ⟨⟨⟩⟩ := hX
    exact Nat.le_refl _
  | orNext _ _ _ _ ih =>
    obtain ⟨⟨⟩⟩ | ⟨⟨⟩⟩ := hX
    exact Nat.le_trans (Nat.le_max_left ..) (ih (.inl rfl))
  | andNext _ _ _ _ ih | andBeside _ _ _ ih =>
    obtain ⟨⟨⟩⟩ | ⟨⟨⟩⟩ := hX
    exact Nat.le_trans (Nat.le_max_left ..) (ih (.inr rfl))
  | _ => obtain ⟨⟨⟩⟩ | ⟨⟨⟩⟩ := hX

end Grammar

namespace Parser

open Grammar

variable {name : String} {c after : Cursor} {q : Query}

theorem literal?_eq_some {s : Symbol} {v : Literal} : literal? s = some v ↔ Value s v := by
  constructor
  · intro h
    cases s <;> cases h <;> constructor
  · rintro (_ | _ | _ | _) <;> rfl

theorem isStar_iff {s : Symbol} : isStar s = true ↔ s = .wildcard "*" := by
  cases s <;> simp [isStar, Query.matchAllName]

/-- A bound takes the tokens that spell it. -/
theorem rangeBound_takes (tokens : List Token) :
    ∃ used, Bound (used.map Token.symbol) (rangeBound tokens).1 ∧
      tokens = used ++ (rangeBound tokens).2 := by
  cases tokens with
  | nil => exact ⟨[], .absent, rfl⟩
  | cons t rest =>
    unfold rangeBound
    by_cases hs : isStar t.symbol = true
    · refine ⟨[t], ?_, by simp [hs]⟩
      simp only [hs, if_true, List.map_cons, List.map_nil]
      rw [isStar_iff.mp hs]
      exact .star
    · cases hv : literal? t.symbol with
      | none => exact ⟨[], by simp [hs, hv, Bound.absent], by simp [hs, hv]⟩
      | some v =>
        have hne : t.symbol ≠ .wildcard "*" := fun he => hs (isStar_iff.mpr he)
        refine ⟨[t], ?_, by simp [hs, hv]⟩
        simpa [hs, hv] using Bound.value (literal?_eq_some.mp hv) hne

/-- Tokens that spell a bound are taken for it, when no value follows. -/
theorem rangeBound_of_bound {lo : List Symbol} {b : Option Literal} (h : Bound lo b)
    {used : List Token} (hused : used.map Token.symbol = lo) {t : Token} {rest : List Token}
    (ht : ∀ v, ¬ Value t.symbol v) : rangeBound (used ++ t :: rest) = (b, t :: rest) := by
  have hnone : literal? t.symbol = none := by
    rw [Option.eq_none_iff_forall_ne_some]
    exact fun v hv => ht v (literal?_eq_some.mp hv)
  have hstar : isStar t.symbol = false := by
    rw [Bool.eq_false_iff]
    intro hs
    refine ht (.text "*") ?_
    rw [isStar_iff.mp hs]
    exact .pattern "*"
  cases h with
  | absent =>
    obtain rfl := List.map_eq_nil_iff.mp hused
    simp [rangeBound, hnone, hstar]
  | star =>
    obtain ⟨t', _, rfl, hs, hnil⟩ := List.map_eq_cons_iff.mp hused
    obtain rfl := List.map_eq_nil_iff.mp hnil
    simp [rangeBound, isStar_iff.mpr hs]
  | value hv hne =>
    obtain ⟨t', _, rfl, rfl, hnil⟩ := List.map_eq_cons_iff.mp hused
    obtain rfl := List.map_eq_nil_iff.mp hnil
    have hs : isStar t'.symbol = false := by
      rw [Bool.eq_false_iff]
      exact fun hs => hne (isStar_iff.mp hs)
    simp [rangeBound, hs, literal?_eq_some.mpr hv]

theorem rangeBody_takes (h : rangeBody name c = .ok q after) :
    ∃ lo hi min max spelling, Bound lo min ∧ Bound hi max ∧ q = .range name min max true ∧
      c.Takes (lo ++ .rangeTo spelling :: (hi ++ [.closeBracket])) 0 after := by
  obtain ⟨used, hmin, hrest⟩ := rangeBound_takes c.rest
  simp only [rangeBody] at h
  generalize rangeBound c.rest = lower at h hmin hrest
  split at h
  · next spelling toSpan rest hto =>
    obtain ⟨used', hmax, hrest'⟩ := rangeBound_takes rest
    generalize rangeBound rest = upper at h hmax hrest'
    split at h
    · next closeSpan rest' hclose =>
      cases h
      refine ⟨_, _, _, _, spelling, hmin, hmax, rfl, ⟨?_, rfl, rfl⟩⟩
      refine ⟨used ++ ⟨.rangeTo spelling, toSpan⟩ :: (used' ++ [⟨.closeBracket, closeSpan⟩]),
        by simp, ?_⟩
      rw [hrest, hto, hrest', hclose]
      simp
    · cases h
  · cases h

theorem rangeBody_of_takes {lo hi : List Symbol} {min max : Option Literal} {spelling : String}
    (hlo : Bound lo min) (hhi : Bound hi max)
    (h : c.Takes (lo ++ .rangeTo spelling :: (hi ++ [.closeBracket])) 0 after) :
    rangeBody name c = .ok (.range name min max true) after := by
  obtain ⟨used, hmap, hused⟩ := h.rest
  obtain ⟨used₁, _, rfl, hlow, hmap⟩ := List.map_eq_append_iff.mp hmap
  obtain ⟨tTo, _, rfl, hto, hmap⟩ := List.map_eq_cons_iff.mp hmap
  obtain ⟨used₂, _, rfl, hhigh, hmap⟩ := List.map_eq_append_iff.mp hmap
  obtain ⟨tClose, _, rfl, hclose, hmap⟩ := List.map_eq_cons_iff.mp hmap
  obtain rfl := List.map_eq_nil_iff.mp hmap
  have hrest : c.rest = used₁ ++ tTo :: (used₂ ++ tClose :: after.rest) := by simpa using hused
  have hlower : rangeBound (used₁ ++ tTo :: (used₂ ++ tClose :: after.rest)) =
      (min, tTo :: (used₂ ++ tClose :: after.rest)) :=
    rangeBound_of_bound hlo hlow fun v hv => hv.ne.1 _ hto
  have hupper : rangeBound (used₂ ++ tClose :: after.rest) = (max, tClose :: after.rest) :=
    rangeBound_of_bound hhi hhigh fun v hv => hv.ne.2.1 hclose
  obtain ⟨_, toSpan⟩ := tTo
  obtain ⟨_, closeSpan⟩ := tClose
  cases hto
  cases hclose
  rw [h.after_eq]
  simp [rangeBody, hrest, hlower, hupper]

/-- What follows the colon of a field is a condition. -/
theorem fieldValue_takes {span : Span} (h : fieldValue name span c = .ok q after) :
    ∃ ts, Condition name ts q ∧ c.Takes ts 0 after := by
  unfold fieldValue at h
  split at h
  · next op _ rest hrest =>
    split at h
    · next t rest' =>
      split at h
      · next v hv =>
        cases h
        have hvalue := literal?_eq_some.mp hv
        refine ⟨[.operator op, t.symbol], ?_, ⟨[_, t], rfl, hrest⟩, rfl, rfl⟩
        cases op with
        | eq => exact .eq hvalue
        | ne => exact .ne hvalue
        | order comparison => exact .order comparison hvalue
      · cases h
    · cases h
  · next rest hrest =>
    obtain ⟨lo, hi, min, max, spelling, hlo, hhi, rfl, htakes⟩ := rangeBody_takes h
    exact ⟨_, .range spelling hlo hhi, .cons hrest htakes⟩
  · next pattern _ rest hrest =>
    cases h
    exact ⟨_, .pattern pattern, ⟨[_], rfl, hrest⟩, rfl, rfl⟩
  · next t rest hop hbracket hpattern hrest =>
    split at h
    · next v hv =>
      cases h
      refine ⟨[t.symbol], .value (literal?_eq_some.mp hv) ?_, ⟨[t], rfl, hrest⟩, rfl, rfl⟩
      intro p hp
      exact hpattern p t.span (by rw [← hp])
    · cases h
  · cases h

theorem fieldValue_of_takes {span : Span} {ts : List Symbol} (hq : Condition name ts q)
    (h : c.Takes ts 0 after) : fieldValue name span c = .ok q after := by
  cases hq with
  | range _ hlo hhi =>
    obtain ⟨⟨_, span⟩, rest, hrest, rfl, hbody⟩ := h.of_cons
    simp only [fieldValue, hrest]
    exact rangeBody_of_takes hlo hhi hbody
  | eq hv | ne hv | order _ hv =>
    obtain ⟨⟨_, span⟩, rest, hrest, rfl, hmore⟩ := h.of_cons
    obtain ⟨t, rest', hrest', rfl, hdone⟩ := hmore.of_cons
    obtain rfl : rest = t :: rest' := hrest'
    obtain rfl := hdone.eq_of_nil
    simp [fieldValue, hrest, literal?_eq_some.mpr hv, operatorClause]
  | pattern s =>
    obtain ⟨⟨_, span⟩, rest, hrest, rfl, hdone⟩ := h.of_cons
    obtain rfl := hdone.eq_of_nil
    simp [fieldValue, hrest]
  | value hv hp =>
    obtain ⟨⟨_, span⟩, rest, hrest, rfl, hdone⟩ := h.of_cons
    obtain rfl := hdone.eq_of_nil
    cases hv with
    | pattern => exact absurd rfl (hp _)
    | _ => simp [fieldValue, hrest, literal?]

/-- From `c` to `after` stand the tokens of a phrase that spells the query, and the limits on
clauses and levels are kept. -/
structure Reads (X : Nonterminal) (levels : Nat) (c : Cursor) (q : Query) (after : Cursor) :
    Prop where
  spelled : ∃ ts n, Derives X ts q ∧ c.Takes ts n after ∧ q.leaves.length = X.clausesBefore + n
  nesting : q.nesting ≤ levels
  clauses : after.clauses ≤ maxClauses
  ends : X.EndsBefore (after.rest.map Token.symbol)

variable {operand : Cursor → Outcome Query} {left : Query} {levels : Nat}

theorem Reads.length_lt {X : Nonterminal} (h : Reads X levels c q after) (hX : X.isWhole = true) :
    after.rest.length < c.rest.length := by
  obtain ⟨ts, n, hd, ht, -⟩ := h.spelled
  exact ht.length_lt (hd.ne_nil hX)

/-- An operand and the phrase after it make up one phrase, with or without a keyword before. -/
theorem Reads.prepend {X Y Z : Nonterminal} {c' mid : Cursor} {right : Query}
    {keyword : List Symbol} (hkeyword : c.Takes keyword 0 c') (hright : Reads X levels c' right mid)
    (hmore : Reads Y levels mid q after)
    (hderives : ∀ {ts us}, Derives X ts right → Derives Y us q →
      Derives Z (keyword ++ (ts ++ us)) q)
    (hbefore : Y.clausesBefore + X.clausesBefore = Z.clausesBefore + right.leaves.length)
    (hends : ∀ {rest}, Y.EndsBefore rest → Z.EndsBefore rest) : Reads Z levels c q after := by
  obtain ⟨ts, m, hd, ht, hm⟩ := hright.spelled
  obtain ⟨us, n, hd', ht', hn⟩ := hmore.spelled
  refine ⟨⟨_, 0 + (m + n), hderives hd hd', hkeyword.trans (ht.trans ht'), ?_⟩,
    hmore.nesting, hmore.clauses, hends hmore.ends⟩
  omega

/-- The further operands of a conjunction are read one by one. -/
theorem conjunctionFrom_reads
    (hop : ∀ {c q after}, operand c = .ok q after → Reads .negation levels c q after)
    (hleft : left.nesting ≤ levels) (hc : c.clauses ≤ maxClauses)
    (h : conjunctionFrom operand left c = .ok q after) :
    Reads (.andMore left) levels c q after := by
  induction hlen : c.rest.length using Nat.strongRecOn generalizing left c with
  | ind k ih =>
    subst hlen
    -- One operand read, from `c` or after a keyword, leaves fewer tokens for the others.
    have hnext : ∀ {c' right mid}, c'.rest.length ≤ c.rest.length → operand c' = .ok right mid →
        (if _h : mid.rest.length < c.rest.length then
          conjunctionFrom operand (.and left right) mid else .ok (.and left right) mid)
            = .ok q after →
        Reads .negation levels c' right mid ∧
          Reads (.andMore (.and left right)) levels mid q after := by
      intro c' right mid hle hmid h
      have hr := hop hmid
      have hlt : mid.rest.length < c.rest.length := Nat.lt_of_lt_of_le (hr.length_lt rfl) hle
      rw [dif_pos hlt] at h
      exact ⟨hr, ih _ hlt (Nat.max_le.mpr ⟨hleft, hr.nesting⟩) hr.clauses h rfl⟩
    rw [conjunctionFrom] at h
    split at h
    · next spelling span rest hrest =>
      split at h
      · cases h
      · simp only at h
        split at h
        · cases h
        · next right mid hmid =>
          obtain ⟨hr, hmore⟩ := hnext (by simp [hrest]) hmid h
          exact .prepend (.cons hrest (.refl _)) hr hmore (.andNext spelling) List.length_append id
    · next t rest hand hrest =>
      split at h
      · simp only at h
        split at h
        · cases h
        · next right mid hmid =>
          obtain ⟨hr, hmore⟩ := hnext (Nat.le_refl _) hmid h
          exact .prepend (.refl c) hr hmore .andBeside List.length_append id
      · next hs =>
        cases h
        refine ⟨⟨[], 0, .andDone, .refl _, rfl⟩, hleft, hc, ?_⟩
        rw [hrest, List.map_cons, Nonterminal.endsBefore_cons]
        obtain ⟨s, span⟩ := t
        cases s with
        | logical connective spelling =>
          cases connective with
          | and => exact absurd rfl (hand spelling span)
          | or => rfl
          | not => exact absurd rfl hs
        | _ => exact Bool.eq_false_iff.mpr hs
    · next hrest =>
      cases h
      exact ⟨⟨[], 0, .andDone, .refl _, rfl⟩, hleft, hc, by simp [hrest, Nonterminal.EndsBefore]⟩

theorem conjunction_reads
    (hop : ∀ {c q after}, operand c = .ok q after → Reads .negation levels c q after)
    (h : conjunction operand c = .ok q after) : Reads .conjunction levels c q after := by
  unfold conjunction at h
  split at h
  · cases h
  · next left mid hmid =>
    have hr := hop hmid
    have hmore := conjunctionFrom_reads hop hr.nesting hr.clauses h
    exact .prepend (.refl c) hr hmore .conjunction (Nat.zero_add _).symm id

theorem disjunctionFrom_reads
    (hop : ∀ {c q after}, operand c = .ok q after → Reads .negation levels c q after)
    (hleft : left.nesting ≤ levels) (hc : c.clauses ≤ maxClauses)
    (hends : Nonterminal.conjunction.EndsBefore (c.rest.map Token.symbol))
    (h : disjunctionFrom operand left c = .ok q after) :
    Reads (.orMore left) levels c q after := by
  fun_induction disjunctionFrom operand left c with
  | case1 => cases h
  | case2 => cases h
  | case3 left c spelling span rest hrest hne right mid hmid hlt ih =>
    have hr := conjunction_reads hop hmid
    have hmore := ih (Nat.max_le.mpr ⟨hleft, hr.nesting⟩) hr.clauses hr.ends h
    exact .prepend (.cons hrest (.refl _)) hr hmore (.orNext spelling) List.length_append id
  | case4 left c spelling span rest hrest hne right mid hmid hlt =>
    have := (conjunction_reads hop hmid).length_lt rfl
    simp only [hrest, List.length_cons] at this hlt
    omega
  | case5 left c hor =>
    have hx : (Nonterminal.orMore left).EndsBefore (c.rest.map Token.symbol) := by
      cases hrest : c.rest with
      | nil => simp [Nonterminal.EndsBefore]
      | cons t rest =>
        rw [hrest, List.map_cons, Nonterminal.endsBefore_cons] at hends
        rw [List.map_cons, Nonterminal.endsBefore_cons]
        obtain ⟨s, span⟩ := t
        cases s with
        | logical connective spelling =>
          cases connective with
          | or => exact absurd hrest (hor spelling span rest)
          | _ => cases hends
        | _ => exact hends
    cases h
    exact ⟨⟨[], 0, .orDone, .refl _, rfl⟩, hleft, hc, hx⟩

theorem disjunction_reads
    (hop : ∀ {c q after}, operand c = .ok q after → Reads .negation levels c q after)
    (h : disjunction operand c = .ok q after) : Reads .expression levels c q after := by
  unfold disjunction at h
  split at h
  · cases h
  · next left mid hmid =>
    have hr := conjunction_reads hop hmid
    have hmore := disjunctionFrom_reads hop hr.nesting hr.clauses hr.ends h
    exact .prepend (.refl c) hr hmore .expression (Nat.zero_add _).symm id

theorem counted_eq_ok {span : Span} {read : Cursor → Outcome Query} :
    counted span c read = .ok q after ↔
      c.clauses + 1 ≤ maxClauses ∧ read { c with clauses := c.clauses + 1 } = .ok q after := by
  unfold counted
  by_cases hc : c.clauses + 1 ≤ maxClauses
  · simp [hc, Nat.not_lt.mpr hc]
  · simp [hc, Nat.not_le.mp hc]

section

variable {spelling : String} {span closeSpan : Span} {rest rest' : List Token} {mid : Cursor}

theorem Reads.not (hrest : c.rest = ⟨.logical .not spelling, span⟩ :: rest)
    (hr : Reads .negation levels { c with rest } q after) :
    Reads .negation (levels + 1) c (.not q) after := by
  obtain ⟨ts, n, hd, ht, hn⟩ := hr.spelled
  exact ⟨⟨_, n, .not spelling hd, .cons hrest ht, hn⟩, Nat.succ_le_succ hr.nesting,
    hr.clauses, hr.ends⟩

theorem Reads.group (hrest : c.rest = ⟨.openParen, span⟩ :: rest)
    (hr : Reads .expression levels { c with rest } q mid)
    (hclose : mid.rest = ⟨.closeParen, closeSpan⟩ :: rest') :
    Reads .negation (levels + 1) c (.group q) { mid with rest := rest' } := by
  obtain ⟨ts, n, hd, ht, hn⟩ := hr.spelled
  have hend : mid.Takes [.closeParen] 0 { mid with rest := rest' } := .cons hclose (.refl _)
  exact ⟨⟨_, n, .primary (.group hd), .cons hrest (ht.trans hend), hn⟩,
    Nat.succ_le_succ hr.nesting, hr.clauses, fun _ _ => rfl⟩

theorem Reads.field {ts : List Symbol} (hq : Condition name ts q)
    (ht : c.Takes (.field name :: .colon :: ts) 1 after) (hc : after.clauses ≤ maxClauses) :
    Reads .negation levels c q after := by
  refine ⟨⟨_, 1, .primary (.field hq), ht, ?_⟩, ?_, hc, fun _ _ => rfl⟩
  · rw [Query.leaves_of_isLeaf hq.isLeaf]
    rfl
  · rw [Query.nesting_of_isLeaf hq.isLeaf]
    exact Nat.zero_le _

theorem Reads.star (ht : c.Takes [.wildcard "*"] 1 after) (hc : after.clauses ≤ maxClauses) :
    Reads .negation levels c .matchAll after :=
  ⟨⟨_, 1, .primary .star, ht, rfl⟩, Nat.zero_le _, hc, fun _ _ => rfl⟩

end

/-- Readers of what is nested keep to one level less. -/
theorem clauseWith_reads {inner : Option (Cursor → Outcome Query)}
    (hinner : ∀ operand ∈ inner, ∃ less, levels = less + 1 ∧
      ∀ {c q after}, operand c = .ok q after → Reads .negation less c q after)
    (h : clauseWith inner c = .ok q after) : Reads .negation levels c q after := by
  unfold clauseWith at h
  split at h
  · next spelling span rest hrest =>
    split at h
    · cases h
    · split at h
      · cases h
      · next operand =>
        obtain ⟨less, rfl, hop⟩ := hinner operand rfl
        cases hinside : operand { c with rest } with
        | fail => rw [hinside] at h; cases h
        | ok body mid =>
          rw [hinside] at h
          cases h
          exact .not hrest (hop hinside)
  · next span rest hrest =>
    simp only at h
    split at h
    · cases h
    · next operand =>
      obtain ⟨less, rfl, hop⟩ := hinner operand rfl
      split at h
      · cases h
      · next body mid hmid =>
        split at h
        · next closeSpan rest' hclose =>
          cases h
          exact .group hrest (disjunction_reads hop hmid) hclose
        · cases h
  · next name span rest hrest =>
    obtain ⟨hc, h⟩ := counted_eq_ok.mp h
    unfold fieldClause at h
    split at h
    · next colonSpan rest' hcolon =>
      obtain ⟨ts, hq, ht⟩ := fieldValue_takes h
      have hcount : ({ c with clauses := c.clauses + 1 } : Cursor).rest =
          ⟨.field name, span⟩ :: rest := hrest
      refine .field hq (.counted (.cons hcount (.cons hcolon ht))) ?_
      rw [ht.clauses]
      exact hc
    · cases h
  · next t rest hnot hparen hfield hrest =>
    split at h
    · next hs =>
      obtain ⟨hc, h⟩ := counted_eq_ok.mp h
      cases h
      have ht : c.Takes [t.symbol] 1 ⟨rest, c.finish, c.clauses + 1⟩ :=
        .cons hrest (.counted (.refl _))
      rw [isStar_iff.mp hs] at ht
      exact .star ht hc
    · cases h
  · cases h

/-- What is read as a clause is spelled by the tokens taken, and nests no deeper than allowed. -/
theorem clause_reads (h : clause levels c = .ok q after) : Reads .negation levels c q after := by
  induction levels generalizing c q after with
  | zero => exact clauseWith_reads (by simp) h
  | succ levels ih =>
    refine clauseWith_reads (fun operand hoperand => ⟨levels, rfl, ?_⟩) h
    cases hoperand
    exact ih

/-- The reader of phrases of a kind. -/
def readerOf (levels : Nat) : Nonterminal → Cursor → Outcome Query
  | .expression => disjunction (clause levels)
  | .orMore left => disjunctionFrom (clause levels) left
  | .conjunction => conjunction (clause levels)
  | .andMore left => conjunctionFrom (clause levels) left
  | .negation | .primary => clause levels

theorem exists_clauseWith (levels : Nat) : ∃ inner, clause levels = clauseWith inner := by
  cases levels with
  | zero => exact ⟨none, rfl⟩
  | succ levels => exact ⟨some (clause levels), rfl⟩

theorem conjunctionFrom_of_ends
    (h : (Nonterminal.andMore left).EndsBefore (c.rest.map Token.symbol)) :
    conjunctionFrom operand left c = .ok left c := by
  rw [conjunctionFrom]
  split
  · next spelling span rest hrest =>
    rw [hrest, List.map_cons, Nonterminal.endsBefore_cons] at h
    cases h
  · next t rest _ hrest =>
    rw [hrest, List.map_cons, Nonterminal.endsBefore_cons] at h
    split
    · next hs =>
      rw [Nonterminal.continues_of_startsClause hs] at h
      cases h
    · rfl
  · rfl

theorem disjunctionFrom_of_ends
    (h : (Nonterminal.orMore left).EndsBefore (c.rest.map Token.symbol)) :
    disjunctionFrom operand left c = .ok left c := by
  rw [disjunctionFrom]
  split
  · next spelling span rest hrest =>
    rw [hrest, List.map_cons, Nonterminal.endsBefore_cons] at h
    cases h
  · rfl

section

variable {right : Query} {mid : Cursor} {spelling : String} {span : Span} {rest : List Token}

theorem conjunctionFrom_of_and (hrest : c.rest = ⟨.logical .and spelling, span⟩ :: rest)
    (hright : operand { c with rest } = .ok right mid) (hlt : mid.rest.length < rest.length) :
    conjunctionFrom operand left c = conjunctionFrom operand (.and left right) mid := by
  rw [conjunctionFrom]
  simp only [hrest, List.isEmpty_iff, hright, List.length_cons]
  rw [if_neg (by rintro rfl; simp at hlt), dif_pos (by omega)]

theorem conjunctionFrom_of_startsClause {t : Token} (hrest : c.rest = t :: rest)
    (hs : startsClause t.symbol = true) (hright : operand c = .ok right mid)
    (hlt : mid.rest.length < c.rest.length) :
    conjunctionFrom operand left c = conjunctionFrom operand (.and left right) mid := by
  rw [conjunctionFrom]
  split
  · next hand =>
    obtain ⟨rfl, -⟩ : t = _ ∧ rest = _ := by simpa [hrest] using hand
    cases hs
  · next t' _ _ hrest' =>
    obtain ⟨rfl, -⟩ : t = t' ∧ _ := by simpa [hrest] using hrest'
    simp only [hs, if_true, hright, hlt, dif_pos]
  · next hnil => simp [hrest] at hnil

theorem disjunctionFrom_of_or (hrest : c.rest = ⟨.logical .or spelling, span⟩ :: rest)
    (hright : Parser.conjunction operand { c with rest } = .ok right mid)
    (hlt : mid.rest.length < rest.length) :
    disjunctionFrom operand left c = disjunctionFrom operand (.or left right) mid := by
  rw [disjunctionFrom]
  simp only [hrest, List.isEmpty_iff, hright, List.length_cons]
  rw [if_neg (by rintro rfl; simp at hlt), dif_pos (by omega)]

theorem isDangling_of_startsClause {t : Token} (hs : startsClause t.symbol = true) :
    isDangling (t :: rest) = false := by
  obtain ⟨s, _⟩ := t
  cases s with
  | logical connective _ => cases connective <;> first | rfl | cases hs
  | closeParen => cases hs
  | _ => rfl

theorem clause_not (hrest : c.rest = ⟨.logical .not spelling, span⟩ :: rest)
    (hdangling : isDangling rest = false) (hbody : clause levels { c with rest } = .ok q after) :
    clause (levels + 1) c = .ok (.not q) after := by
  simp [clause, clauseWith, hrest, hdangling, hbody, Outcome.map]

/-- A group is read where the expression in it is read up to its closing parenthesis. -/
theorem clause_group {closeSpan : Span} {rest' : List Token}
    (hrest : c.rest = ⟨.openParen, span⟩ :: rest)
    (hbody : disjunction (clause levels) { c with rest } = .ok q mid)
    (hclose : mid.rest = ⟨.closeParen, closeSpan⟩ :: rest') :
    clause (levels + 1) c = .ok (.group q) { mid with rest := rest' } := by
  simp [clause, clauseWith, hrest, hbody, hclose]

theorem clause_star (ht : c.Takes [.wildcard "*"] 1 after) (hc : after.clauses ≤ maxClauses) :
    clause levels c = .ok .matchAll after := by
  have hclauses := ht.clauses
  obtain ⟨⟨_, span⟩, rest, hrest, rfl, hafter⟩ := ht.of_cons
  obtain ⟨inner, hinner⟩ := exists_clauseWith levels
  simp only [hinner, clauseWith, hrest]
  rw [if_pos (isStar_iff.mpr rfl)]
  exact counted_eq_ok.mpr ⟨by omega, by rw [hafter.of_counted.eq_of_nil]⟩

theorem clause_field {ts : List Symbol} (hcond : Condition name ts q)
    (ht : c.Takes (.field name :: .colon :: ts) 1 after) (hc : after.clauses ≤ maxClauses) :
    clause levels c = .ok q after := by
  have hclauses := ht.clauses
  obtain ⟨⟨_, span⟩, rest, hrest, rfl, hafter⟩ := ht.of_cons
  obtain ⟨⟨_, colonSpan⟩, rest', hrest', rfl, hafter'⟩ := hafter.of_cons
  obtain rfl : rest = ⟨.colon, colonSpan⟩ :: rest' := hrest'
  obtain ⟨inner, hinner⟩ := exists_clauseWith levels
  simp only [hinner, clauseWith, hrest]
  exact counted_eq_ok.mpr ⟨by omega, fieldValue_of_takes hcond hafter'.of_counted⟩

end

/-- A first operand takes as many clauses as it has, and the limits that are kept at the end are
kept after it. `whole` is what the operand makes of the operands before it. -/
theorem exists_after_operand {X : Nonterminal} {ts us : List Symbol} {n before : Nat}
    {whole right : Query} (hmore : Derives X us q) (hX : X = .orMore whole ∨ X = .andMore whole)
    (hwhole : whole.leaves.length = before + right.leaves.length)
    (hright : right.nesting ≤ whole.nesting) (ht : c.Takes (ts ++ us) n after)
    (hn : q.leaves.length = before + n) (hq : q.nesting ≤ levels)
    (hc : after.clauses ≤ maxClauses) :
    ∃ mid m, c.Takes ts right.leaves.length mid ∧ mid.Takes us m after ∧
      mid.clauses ≤ maxClauses ∧ right.nesting ≤ levels ∧
      q.leaves.length = X.clausesBefore + m := by
  have hleaves := (hmore.leaves_prefix hX).length_le
  have hnesting := hmore.nesting_le hX
  have hbefore : X.clausesBefore = whole.leaves.length := by rcases hX with rfl | rfl <;> rfl
  obtain ⟨mid, htake, htake', hmid⟩ := ht.split (show right.leaves.length ≤ n by omega)
  exact ⟨mid, _, htake, htake', by omega, by omega, by omega⟩

/-- Wherever these tokens of a phrase come next and the limits are kept, the reader of its kind
takes them and hands the query back. -/
def IsRead (X : Nonterminal) (ts : List Symbol) (q : Query) : Prop :=
  ∀ ⦃levels n : Nat⦄ ⦃c after : Cursor⦄, c.Takes ts n after →
    q.leaves.length = X.clausesBefore + n → q.nesting ≤ levels → after.clauses ≤ maxClauses →
      X.EndsBefore (after.rest.map Token.symbol) → readerOf levels X c = .ok q after

namespace IsRead

variable {ts us : List Symbol} {right : Query}

theorem expression (hfirst : IsRead .conjunction ts left) (hmore : IsRead (.orMore left) us q)
    (hd : Derives (.orMore left) us q) : IsRead .expression (ts ++ us) q := by
  intro levels n c after ht hn hq hc hends
  obtain ⟨mid, m, htake, htake', hmid, hdeep, hm⟩ :=
    exists_after_operand hd (.inl rfl) (Nat.zero_add _).symm (Nat.le_refl _) ht hn hq hc
  have hbetween : Nonterminal.conjunction.EndsBefore (mid.rest.map Token.symbol) := by
    rw [htake'.symbols]
    exact hd.conjunction_endsBefore hends
  have hread : Parser.conjunction (clause levels) c = .ok left mid :=
    hfirst htake (Nat.zero_add _).symm hdeep hmid hbetween
  simp only [readerOf, disjunction, hread]
  exact hmore htake' hm hq hc hends

theorem orDone : IsRead (.orMore q) [] q := by
  intro levels n c after ht hn _ _ hends
  obtain rfl : n = 0 := by simp only [Nonterminal.clausesBefore] at hn; omega
  obtain rfl := ht.eq_of_nil
  exact disjunctionFrom_of_ends hends

theorem orNext (spelling : String) (hfirst : IsRead .conjunction ts right)
    (hmore : IsRead (.orMore (.or left right)) us q) (hright : Derives .conjunction ts right)
    (hd : Derives (.orMore (.or left right)) us q) :
    IsRead (.orMore left) (.logical .or spelling :: (ts ++ us)) q := by
  intro levels n c after ht hn hq hc hends
  obtain ⟨⟨_, span⟩, rest, hrest, rfl, hafter⟩ := ht.of_cons
  obtain ⟨mid, m, htake, htake', hmid, hdeep, hm⟩ := exists_after_operand hd (.inl rfl)
    List.length_append (Nat.le_max_right ..) hafter hn hq hc
  have hbetween : Nonterminal.conjunction.EndsBefore (mid.rest.map Token.symbol) := by
    rw [htake'.symbols]
    exact hd.conjunction_endsBefore hends
  have hread : Parser.conjunction (clause levels) { c with rest } = .ok right mid :=
    hfirst htake (Nat.zero_add _).symm hdeep hmid hbetween
  simp only [readerOf]
  rw [disjunctionFrom_of_or hrest hread (htake.length_lt (hright.ne_nil rfl))]
  exact hmore htake' hm hq hc hends

theorem conjunction (hfirst : IsRead .negation ts left) (hmore : IsRead (.andMore left) us q)
    (hd : Derives (.andMore left) us q) : IsRead .conjunction (ts ++ us) q := by
  intro levels n c after ht hn hq hc hends
  obtain ⟨mid, m, htake, htake', hmid, hdeep, hm⟩ :=
    exists_after_operand hd (.inr rfl) (Nat.zero_add _).symm (Nat.le_refl _) ht hn hq hc
  have hread : clause levels c = .ok left mid :=
    hfirst htake (Nat.zero_add _).symm hdeep hmid fun _ _ => rfl
  simp only [readerOf, Parser.conjunction, hread]
  exact hmore htake' hm hq hc hends

theorem andDone : IsRead (.andMore q) [] q := by
  intro levels n c after ht hn _ _ hends
  obtain rfl : n = 0 := by simp only [Nonterminal.clausesBefore] at hn; omega
  obtain rfl := ht.eq_of_nil
  exact conjunctionFrom_of_ends hends

theorem andNext (spelling : String) (hfirst : IsRead .negation ts right)
    (hmore : IsRead (.andMore (.and left right)) us q) (hright : Derives .negation ts right)
    (hd : Derives (.andMore (.and left right)) us q) :
    IsRead (.andMore left) (.logical .and spelling :: (ts ++ us)) q := by
  intro levels n c after ht hn hq hc hends
  obtain ⟨⟨_, span⟩, rest, hrest, rfl, hafter⟩ := ht.of_cons
  obtain ⟨mid, m, htake, htake', hmid, hdeep, hm⟩ := exists_after_operand hd (.inr rfl)
    List.length_append (Nat.le_max_right ..) hafter hn hq hc
  have hread : clause levels { c with rest } = .ok right mid :=
    hfirst htake (Nat.zero_add _).symm hdeep hmid fun _ _ => rfl
  simp only [readerOf]
  rw [conjunctionFrom_of_and hrest hread (htake.length_lt (hright.ne_nil rfl))]
  exact hmore htake' hm hq hc hends

theorem andBeside (hfirst : IsRead .negation ts right)
    (hmore : IsRead (.andMore (.and left right)) us q) (hright : Derives .negation ts right)
    (hd : Derives (.andMore (.and left right)) us q) : IsRead (.andMore left) (ts ++ us) q := by
  intro levels n c after ht hn hq hc hends
  obtain ⟨mid, m, htake, htake', hmid, hdeep, hm⟩ := exists_after_operand hd (.inr rfl)
    List.length_append (Nat.le_max_right ..) ht hn hq hc
  have hread : clause levels c = .ok right mid :=
    hfirst htake (Nat.zero_add _).symm hdeep hmid fun _ _ => rfl
  have hlt := htake.length_lt (hright.ne_nil rfl)
  obtain ⟨s, _, rfl, hs⟩ := hright.starts rfl
  obtain ⟨t, rest, hrest, rfl, -⟩ := ht.of_cons
  simp only [readerOf]
  rw [conjunctionFrom_of_startsClause hrest hs hread hlt]
  exact hmore htake' hm hq hc hends

theorem not (spelling : String) (h : IsRead .negation ts q) (hd : Derives .negation ts q) :
    IsRead .negation (.logical .not spelling :: ts) (.not q) := by
  intro levels n c after ht hn hq hc hends
  obtain ⟨⟨_, span⟩, rest, hrest, rfl, hafter⟩ := ht.of_cons
  obtain ⟨s, more, rfl, hs⟩ := hd.starts rfl
  obtain ⟨t, rest', hrest', rfl, -⟩ := hafter.of_cons
  obtain rfl : rest = t :: rest' := hrest'
  cases levels with
  | zero => simp [Query.nesting] at hq
  | succ less =>
    exact clause_not hrest (isDangling_of_startsClause hs)
      (h hafter hn (Nat.le_of_succ_le_succ hq) hc hends)

theorem group (h : IsRead .expression ts q) :
    IsRead .primary (.openParen :: (ts ++ [.closeParen])) (.group q) := by
  intro levels n c after ht hn hq hc _
  obtain ⟨⟨_, span⟩, rest, hrest, rfl, hafter⟩ := ht.of_cons
  obtain ⟨mid, htake, htake', -⟩ := hafter.split (Nat.le_refl n)
  obtain ⟨⟨_, closeSpan⟩, rest', hrest', rfl, hdone⟩ := htake'.of_cons
  rw [Nat.sub_self] at hdone
  obtain rfl := hdone.eq_of_nil
  cases levels with
  | zero => simp [Query.nesting] at hq
  | succ less =>
    refine clause_group hrest ?_ hrest'
    refine h htake hn (Nat.le_of_succ_le_succ hq) hc ?_
    rw [hrest']
    exact Nonterminal.endsBefore_cons.mpr rfl

theorem star : IsRead .primary [.wildcard "*"] .matchAll := by
  intro levels n c after ht hn _ hc _
  obtain rfl : n = 0 + 1 := by
    simpa [Query.matchAll, Query.leaves, Nonterminal.clausesBefore, eq_comm] using hn
  exact clause_star ht hc

theorem field {name : String} (hcond : Condition name ts q) :
    IsRead .primary (.field name :: .colon :: ts) q := by
  intro levels n c after ht hn _ hc _
  obtain rfl : n = 0 + 1 := by
    simpa [Query.leaves_of_isLeaf hcond.isLeaf, Nonterminal.clausesBefore, eq_comm] using hn
  exact clause_field hcond ht hc

end IsRead

/-- Where tokens spell a query within the limits, the reader takes them and hands it back. -/
theorem isRead_of_derives {X : Nonterminal} {ts : List Symbol} (h : Derives X ts q) :
    IsRead X ts q := by
  induction h with
  | expression _ hmore ihfirst ihmore => exact .expression ihfirst ihmore hmore
  | orDone => exact .orDone
  | orNext spelling hright hmore ihfirst ihmore =>
    exact .orNext spelling ihfirst ihmore hright hmore
  | conjunction _ hmore ihfirst ihmore => exact .conjunction ihfirst ihmore hmore
  | andDone => exact .andDone
  | andNext spelling hright hmore ihfirst ihmore =>
    exact .andNext spelling ihfirst ihmore hright hmore
  | andBeside hright hmore ihfirst ihmore => exact .andBeside ihfirst ihmore hright hmore
  | not spelling h ih => exact .not spelling ih h
  -- A negation without the keyword is read by the same reader as the primary that it is.
  | primary _ ih => exact ih
  | group _ ih => exact .group ih
  | star => exact .star
  | field hcond => exact .field hcond

theorem faults_report (p : Progress) (d : Diagnostic) : (p.report d).faults ≠ [] :=
  List.cons_ne_nil _ _

theorem faults_takeStop {p : Progress} (h : (takeStop p c).1.faults = []) : p.faults = [] := by
  unfold takeStop at h
  repeat' split at h
  all_goals first
    | exact h
    | exact absurd h (faults_report _ _)

/-- A fault that was reported stays. -/
theorem faults_parts {p : Progress} (h : (parts p c).faults = []) : p.faults = [] := by
  fun_induction parts p c with
  | case1 => exact h
  | case2 => exact absurd h (faults_report _ _)
  | case3 p c _ why after _ _ p' after' hstop _ ih =>
    have := faults_takeStop (by rw [hstop]; exact ih h)
    exact absurd this (faults_report _ _)
  | case4 p c _ why after _ _ p' after' hstop _ =>
    have := faults_takeStop (by rw [hstop]; exact h)
    exact absurd this (faults_report _ _)
  | case5 p c _ right after _ p' after' hstop _ ih =>
    exact faults_takeStop (p := p.add right) (by rw [hstop]; exact ih h)
  | case6 p c _ right after _ p' after' hstop _ =>
    exact faults_takeStop (p := p.add right) (by rw [hstop]; exact h)

/-- An expression stops before a token that has no place, or at the end. -/
theorem faults_takeStop_of_ends {p : Progress} {t : Token} {rest : List Token}
    (hrest : c.rest = t :: rest)
    (hends : Nonterminal.expression.EndsBefore (c.rest.map Token.symbol)) :
    (takeStop p c).1.faults ≠ [] := by
  rw [hrest, List.map_cons, Nonterminal.endsBefore_cons] at hends
  obtain ⟨s, span⟩ := t
  cases s with
  | logical => cases hends
  | _ => simp [takeStop, hrest, Progress.report]

theorem expression_reads (h : expression c = .ok q after) :
    Reads .expression (maxDepth - 1) c q after :=
  disjunction_reads clause_reads h

/-- Reading comes to an end without faults just when one expression takes all tokens; a reading that
was resumed has met a fault. -/
theorem parts_eq_iff :
    ((parts ⟨none, []⟩ c).faults = [] ∧ (parts ⟨none, []⟩ c).root = some q) ↔
      ∃ after, expression c = .ok q after ∧ after.rest = [] := by
  have hdone : ∀ {p after}, after.rest = [] → parts p after = p := by
    intro p after hrest
    rw [parts, if_pos (by simp [hrest])]
  by_cases hc : c.rest = []
  · rw [hdone hc]
    refine iff_of_false (by simp) ?_
    rintro ⟨after, he, -⟩
    have := (expression_reads he).length_lt rfl
    simp [hc] at this
  rw [parts, if_neg (by simpa using hc)]
  cases he : expression c with
  | fail why after =>
    simp only
    refine iff_of_false (fun h => ?_) (by simp)
    split at h
    · exact absurd h.1 (faults_report _ _)
    · have hstop := faults_takeStop (p := Progress.report ⟨none, []⟩ why)
        (c := { after with rest := resume after.rest })
      generalize takeStop _ _ = stop at h hstop
      split at h
      · exact absurd (hstop (faults_parts h.1)) (faults_report _ _)
      · exact absurd (hstop h.1) (faults_report _ _)
  | ok q' after =>
    simp only
    have hr := expression_reads he
    cases hrest : after.rest with
    | nil =>
      have hstop : ∀ p, takeStop p after = (p, after) := fun p => by simp [takeStop, hrest]
      simp only [hstop, hr.length_lt rfl, dif_pos, hdone hrest, Progress.add]
      constructor
      · rintro ⟨-, hq⟩
        cases hq
        exact ⟨after, rfl, hrest⟩
      · rintro ⟨after', he', -⟩
        cases he'
        exact ⟨trivial, rfl⟩
    | cons t rest =>
      have hstop := faults_takeStop_of_ends (p := Progress.add ⟨none, []⟩ q') hrest hr.ends
      generalize takeStop _ _ = stop at hstop
      refine iff_of_false (fun h => ?_) ?_
      · split at h
        · exact hstop (faults_parts h.1)
        · exact hstop h.1
      · rintro ⟨after', he', hnil⟩
        cases he'
        rw [hrest] at hnil
        cases hnil

/-- The tokens are a query just when one expression takes all of them. -/
theorem ofTokens_eq_ok {tokens : Tokens} :
    Query.ofTokens tokens = .ok q ↔
      ∃ after, expression ⟨tokens.items, tokens.finish, 0⟩ = .ok q after ∧ after.rest = [] := by
  rw [← parts_eq_iff, Query.ofTokens]
  generalize parts ⟨none, []⟩ _ = p
  obtain ⟨root, faults⟩ := p
  cases faults <;> cases root <;> simp

end Parser

open Grammar

def Tokens.start (tokens : Tokens) : Cursor :=
  ⟨tokens.items, tokens.finish, 0⟩

/-- Tokens that spell a query within the limits are all taken for it. -/
theorem Parser.disjunction_of_derives {tokens : Tokens} {q : Query} {levels : Nat}
    (hd : Derives .expression (tokens.items.map Token.symbol) q)
    (hclauses : q.leaves.length ≤ maxClauses) (hq : q.nesting ≤ levels) :
    ∃ after, disjunction (clause levels) tokens.start = .ok q after ∧ after.rest = [] := by
  have ht : tokens.start.Takes (tokens.items.map Token.symbol) q.leaves.length
      ⟨[], tokens.finish, q.leaves.length⟩ :=
    ⟨⟨tokens.items, rfl, by simp [Tokens.start]⟩, rfl, by simp [Tokens.start]⟩
  refine ⟨_, isRead_of_derives hd ht (by simp [Nonterminal.clausesBefore]) hq hclauses ?_, rfl⟩
  simp [Nonterminal.EndsBefore]

/-- The tokens of a text are read as a query just when they spell it, it has no more clauses than
allowed, and its groups and negations nest no deeper than allowed. -/
theorem Query.ofTokens_eq_ok_iff_derives {tokens : Tokens} {q : Query} :
    ofTokens tokens = .ok q ↔ Derives .expression (tokens.items.map Token.symbol) q ∧
      q.leaves.length ≤ maxClauses ∧ 1 + q.nesting ≤ maxDepth := by
  rw [Parser.ofTokens_eq_ok]
  constructor
  · rintro ⟨after, he, hrest⟩
    have hr := Parser.expression_reads he
    obtain ⟨ts, n, hd, ht, hn⟩ := hr.spelled
    obtain ⟨used, rfl, hused⟩ := ht.rest
    obtain rfl : tokens.items = used := by simpa [hrest] using hused
    have hclauses := ht.clauses
    have hmost := hr.clauses
    have hnesting := hr.nesting
    simp only [Nonterminal.clausesBefore] at hn
    refine ⟨hd, ?_, ?_⟩
    · simp only at hclauses
      omega
    · simp only [maxDepth] at hnesting ⊢
      omega
  · rintro ⟨hd, hclauses, hnesting⟩
    refine Parser.disjunction_of_derives hd hclauses ?_
    simp only [maxDepth] at hnesting ⊢
    omega

/-- The tokens of a text are read as a query just when they spell it and no other, it has no more
clauses than allowed, and its groups and negations nest no deeper than allowed. -/
theorem Query.ofTokens_eq_ok_iff (tokens : Tokens) (q : Query) :
    ofTokens tokens = .ok q ↔
      (Derives .expression (tokens.items.map Token.symbol) q ∧
        ∀ q', Derives .expression (tokens.items.map Token.symbol) q' → q' = q) ∧
      q.leaves.length ≤ maxClauses ∧ 1 + q.nesting ≤ maxDepth := by
  rw [ofTokens_eq_ok_iff_derives]
  constructor
  · rintro ⟨hd, hlimits⟩
    exact ⟨⟨hd, fun q' hd' => hd'.eq_of_expression hd⟩, hlimits⟩
  · rintro ⟨⟨hd, -⟩, hlimits⟩
    exact ⟨hd, hlimits⟩

end NetQuery
