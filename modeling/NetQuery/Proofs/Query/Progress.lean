import NetQuery.Proofs.Query.Levels
import NetQuery.Proofs.Query.Rounds

namespace NetQuery

open NetQuery.Parser

namespace Machine

variable {tokens : Tokens} {m m' : Machine} {p p' : Progress} {t : Token} {why : Diagnostic}
  {o : Outcome Query} {r : Answer Query}

theorem Agrees.kept (h : Agrees tokens m o r) : Kept tokens m r.2 := by
  cases h with
  | ok hsince _ => exact hsince.toKept
  | fail hstop => exact hstop.toKept

theorem Reads.exists_kept {run : Nat → Option (Answer Query)} (h : Reads tokens m o run) :
    ∃ r, Returns run r ∧ Kept tokens m r.2 := by
  obtain ⟨r, hr, hagrees⟩ := h
  exact ⟨r, hr, hagrees.kept⟩

theorem negation_kept (tokens : Tokens) (m : Machine) :
    ∃ r, Returns (fun n => negation tokens n m) r ∧ Kept tokens m r.2 :=
  (clause_reads _ m rfl).exists_kept

theorem expression_kept (tokens : Tokens) (m : Machine) :
    ∃ r, Returns (fun n => expression tokens n m) r ∧ Kept tokens m r.2 := by
  rcases Nat.lt_or_ge m.depth maxDepth with hlt | hge
  · exact (expression_agrees hlt).exists_kept
  · exact (expression_tooDeep hge).exists_kept

theorem expression_outermost (tokens : Tokens) (h : m.depth = 0) :
    Reads tokens m (Parser.expression (m.cursor tokens)) fun n => expression tokens n m := by
  have hlt : m.depth < maxDepth := by
    rw [h]
    decide
  have hread : Reads tokens m _ fun n => expression tokens n m := expression_agrees hlt
  rw [h] at hread
  exact hread

/-- The machine stands where reading resumes. -/
structure Resumed (tokens : Tokens) (m m' : Machine) : Prop extends Since tokens m m' where
  clauses_eq : m'.clauses = m.clauses
  rest_eq : m'.rest tokens = resume (m.rest tokens)

theorem synchronize_stays (hrun : ∀ n, synchronize tokens (n + 1) m = some m)
    (hrest : resume (m.rest tokens) = m.rest tokens) :
    ∃ m', Returns (fun n => synchronize tokens n m) m' ∧ Resumed tokens m m' :=
  ⟨m, (Returns.of_eq fun _ => rfl).step hrun, ⟨.refl m, rfl, hrest.symm⟩⟩

theorem synchronize_returns (tokens : Tokens) (m : Machine) :
    ∃ m', Returns (fun n => synchronize tokens n m) m' ∧ Resumed tokens m m' := by
  induction hrest : m.rest tokens using resume.induct generalizing m with
  | case1 =>
    refine synchronize_stays (fun n => ?_) (by rw [hrest]; rfl)
    rw [synchronize, peek_of_rest_nil hrest]
  | case2 t rest hsymbol =>
    obtain ⟨symbol, span⟩ := t
    subst hsymbol
    refine synchronize_stays (fun n => ?_) (by rw [hrest]; rfl)
    rw [synchronize, (peek_of_rest hrest).1]
  | case3 t rest spelling hsymbol | case4 t rest spelling hsymbol =>
    obtain ⟨symbol, span⟩ := t
    subst hsymbol
    refine synchronize_stays (fun n => ?_) (by rw [hrest]; rfl)
    rw [synchronize, (peek_of_rest hrest).1]
  | case5 t rest hclose hand hor ih =>
    obtain ⟨hpeek, rfl⟩ := peek_of_rest hrest
    obtain ⟨m', hm', hresumed⟩ := ih (m.advance tokens) rfl
    have hrun : ∀ n, synchronize tokens (n + 1) m = synchronize tokens n (m.advance tokens) := by
      intro n
      rw [synchronize, hpeek]
      split
      · next heq => cases heq
      · next heq =>
        cases heq
        exact absurd rfl hclose
      · next heq =>
        cases heq
        exact absurd rfl (hand _)
      · next heq =>
        cases heq
        exact absurd rfl (hor _)
      · rfl
    have hresume : resume (m.rest tokens) = resume ((m.advance tokens).rest tokens) := by
      rw [hrest, resume]
      split
      · next heq => exact absurd heq hclose
      · next heq => exact absurd heq (hand _)
      · next heq => exact absurd heq (hor _)
      · rfl
    exact ⟨m', hm'.step hrun, (Since.advance hpeek).trans hresumed.toSince, hresumed.clauses_eq,
      hresumed.rest_eq.trans hresume.symm⟩

end Machine

/-- No report tells of too many clauses. -/
def Parser.Progress.Within (p : Progress) : Prop :=
  ∀ d ∈ p.faults, d.fault ≠ .tooManyClauses

theorem Parser.Progress.Within.report {p : Progress} {d : Diagnostic} (h : p.Within)
    (hd : d.fault ≠ .tooManyClauses) : (p.report d).Within :=
  List.forall_mem_cons.mpr ⟨hd, h⟩

namespace Machine

variable {tokens : Tokens} {m m' : Machine} {p p' : Progress} {t : Token} {why : Diagnostic}
  {q : Query}

/-- The faults so far, with the one of the token at which an expression stopped. -/
def afterStop (p : Progress) (ts : List Token) : Progress :=
  (stopFault? ts).elim p p.report

theorem within_afterStop (h : p.Within) (ts : List Token) : (afterStop p ts).Within := by
  unfold afterStop
  cases hstop : stopFault? ts with
  | none => exact h
  | some d =>
    obtain ⟨t, rest, -, hd⟩ := stopFault?_cases hstop
    apply h.report
    rcases hd with rfl | ⟨w, rfl⟩ <;> simp

theorem takeStop_of_peek (hpeek : m.peek tokens = some t) :
    m.takeStop tokens p = (afterStop p (m.rest tokens), m.advance tokens) := by
  obtain ⟨symbol, span⟩ := t
  unfold takeStop afterStop stopFault?
  rw [hpeek, rest_of_peek hpeek]
  cases symbol with
  | logical connective spelling =>
    cases connective with
    | not => rfl
    | _ =>
      simp only [atEnd_eq]
      split <;> rfl
  | _ => rfl

/-- The token at which an expression stopped is taken, if there is one. -/
theorem takeStop_agrees (tokens : Tokens) (p : Progress) (m : Machine) :
    ∃ p' m', m.takeStop tokens p = (p', m') ∧
      Parser.takeStop p (m.cursor tokens) = (p', m'.cursor tokens) ∧ Since tokens m m' ∧
      (m.peek tokens = none ∨ m.position < m'.position) ∧ (p.Within → p'.Within) := by
  rw [takeStop_eq, cursor_rest]
  cases hpeek : m.peek tokens with
  | none =>
    rw [rest_of_peek_none hpeek]
    refine ⟨p, m, by simp [takeStop, hpeek], ?_, .refl m, .inl rfl, id⟩
    simp [stopFault?, cursor, rest_of_peek_none hpeek]
  | some t =>
    refine ⟨_, _, takeStop_of_peek hpeek, ?_, .advance hpeek, .inr (lt_advance hpeek),
      fun hp => within_afterStop hp _⟩
    rw [rest_of_peek hpeek]
    rfl

/-- What one iteration does: it goes on behind where it began, or it leaves the loop, as there were
too many clauses. -/
inductive Iterates (tokens : Tokens) (p : Progress) (m : Machine) : Progress → Machine → Bool → Prop
    where
  | on {p' : Progress} {m' : Machine} (h : Since tokens m m') (hlt : m.position < m'.position)
      (hwithin : p.Within → p'.Within)
      (hparts : parts p (m.cursor tokens) = parts p' (m'.cursor tokens)) :
      Iterates tokens p m p' m' false
  | out {why : Diagnostic} {m' : Machine} (h : Stopped tokens m why m')
      (hwhy : why.fault = .tooManyClauses)
      (hparts : parts p (m.cursor tokens) = p.report why) :
      Iterates tokens p m (p.report why) m' true

theorem parts_of_ok {c mid after : Cursor} (h : Parser.expression c = .ok q mid)
    (hstop : Parser.takeStop (p.add q) mid = (p', after))
    (hlt : after.rest.length < c.rest.length) :
    parts p c = parts p' after := by
  have hne : c.rest ≠ [] := by
    intro hnil
    simp [hnil] at hlt
  rw [parts, if_neg (by simpa using hne), h]
  simp only [hstop]
  exact dif_pos hlt

theorem parts_of_fail {c mid after : Cursor} (h : Parser.expression c = .fail why mid)
    (hwhy : why.fault ≠ .tooManyClauses)
    (hstop : Parser.takeStop (p.report why) { mid with rest := resume mid.rest } = (p', after))
    (hlt : after.rest.length < c.rest.length) : parts p c = parts p' after := by
  have hne : c.rest ≠ [] := by
    intro hnil
    simp [hnil] at hlt
  rw [parts, if_neg (by simpa using hne), h]
  simp only [if_neg hwhy, hstop]
  exact dif_pos hlt

theorem parts_of_many {c mid : Cursor} (h : Parser.expression c = .fail why mid)
    (hwhy : why.fault = .tooManyClauses) (hne : c.rest ≠ []) : parts p c = p.report why := by
  rw [parts, if_neg (by simpa using hne), h]
  exact if_pos hwhy

/-- From a token, what has gone on to the end or past a place behind it has gone on. -/
theorem lt_of_takeStop {m₁ m₂ : Machine} (hpeek : m.peek tokens = some t)
    (hle : m.position ≤ m₁.position) (hstop : m₁.peek tokens = none ∨ m₁.position < m₂.position)
    (hle' : m₁.position ≤ m₂.position) : m.position < m₂.position := by
  rcases hstop with hend | hlt
  · have hlen := (position_advance hpeek).2
    have hge := List.getElem?_eq_none_iff.mp hend
    omega
  · omega

section

variable {m₁ m₂ : Machine}

theorem iteration_of_ok (h : Returns (fun n => expression tokens n m) (.ok q, m₁))
    (hstop : m₁.takeStop tokens (p.add q) = (p', m')) :
    Returns (fun n => m.iteration tokens n p) ((p', m'), false) := by
  obtain ⟨n, hn⟩ := h
  refine ⟨n, fun calls hcalls => ?_⟩
  have hread : m.expression tokens calls = some (.ok q, m₁) := hn calls hcalls
  simp only [iteration, hread, Option.bind_eq_bind, Option.bind_some, hstop]
  rfl

theorem iteration_of_exhausted (h : Returns (fun n => expression tokens n m) (.error why, m₁))
    (hout : m₁.exhausted = true) :
    Returns (fun n => m.iteration tokens n p) ((p.report why, m₁), true) := by
  obtain ⟨n, hn⟩ := h
  refine ⟨n, fun calls hcalls => ?_⟩
  have hread : m.expression tokens calls = some (.error why, m₁) := hn calls hcalls
  simp only [iteration, hread, Option.bind_eq_bind, Option.bind_some, if_pos hout]
  rfl

theorem iteration_of_error (h : Returns (fun n => expression tokens n m) (.error why, m₁))
    (hgoes : m₁.exhausted = false) (hsync : Returns (fun n => synchronize tokens n m₁) m₂)
    (hstop : m₂.takeStop tokens (p.report why) = (p', m')) :
    Returns (fun n => m.iteration tokens n p) ((p', m'), false) := by
  obtain ⟨n, hn⟩ := h.both hsync
  refine ⟨n, fun calls hcalls => ?_⟩
  have hread : m.expression tokens calls = some (.error why, m₁) := (hn calls hcalls).1
  have hresumed : m₁.synchronize tokens calls = some m₂ := (hn calls hcalls).2
  have hon : ¬ m₁.exhausted = true := by simp [hgoes]
  simp only [iteration, hread, Option.bind_eq_bind, Option.bind_some, if_neg hon, hresumed, hstop]
  rfl

end

theorem iteration_returns (p : Progress) (hpeek : m.peek tokens = some t) (hdepth : m.depth = 0)
    (hfresh : m.exhausted = false) : ∃ p' m' leaves,
      Returns (fun n => m.iteration tokens n p) ((p', m'), leaves) ∧
        Iterates tokens p m p' m' leaves := by
  obtain ⟨r, hr, hagrees⟩ := expression_outermost tokens hdepth
  generalize ho : Parser.expression (m.cursor tokens) = o at hagrees
  cases hagrees with
  | @ok q m₁ hsince hlt =>
    obtain ⟨p', m', hstop, hstop', hsince', hnext, hwithin⟩ := takeStop_agrees tokens (p.add q) m₁
    have hlt' := lt_of_takeStop hpeek hsince.forward hnext hsince'.forward
    have hparts := parts_of_ok ho hstop' (length_rest_lt hpeek hlt')
    exact ⟨p', m', false, iteration_of_ok hr hstop, .on (hsince.trans hsince') hlt' hwithin hparts⟩
  | @fail why m₁ hstopped =>
    by_cases hwhy : why.fault = .tooManyClauses
    · have hout : m₁.exhausted = true := hstopped.exhausted.mpr (.inr hwhy)
      have hparts : parts p (m.cursor tokens) = p.report why :=
        parts_of_many ho hwhy (by simp [cursor, rest_of_peek hpeek])
      exact ⟨p.report why, m₁, true, iteration_of_exhausted hr hout, .out hstopped hwhy hparts⟩
    · have hsince := hstopped.since hwhy
      obtain ⟨m₂, hm₂, hresumed⟩ := synchronize_returns tokens m₁
      obtain ⟨p', m', hstop, hstop', hsince', hnext, hwithin⟩ :=
        takeStop_agrees tokens (p.report why) m₂
      have hsince₂ := hsince.trans hresumed.toSince
      have hlt' := lt_of_takeStop hpeek hsince₂.forward hnext hsince'.forward
      have hcursor : { m₁.cursor tokens with rest := resume (m₁.cursor tokens).rest } =
          m₂.cursor tokens := by
        rw [cursor, cursor, ← hresumed.rest_eq, hresumed.clauses_eq]
      have hparts : parts p (m.cursor tokens) = parts p' (m'.cursor tokens) :=
        parts_of_fail ho hwhy (by rw [hcursor]; exact hstop') (length_rest_lt hpeek hlt')
      exact ⟨p', m', false, iteration_of_error hr (hsince.exhausted.trans hfresh) hm₂ hstop,
        .on (hsince₂.trans hsince') hlt' (fun hp => hwithin (hp.report hwhy)) hparts⟩

structure Goes (tokens : Tokens) (p : Progress) (m : Machine) : Prop where
  depth : m.depth = 0
  position : m.position ≤ tokens.items.length
  fresh : m.exhausted = false
  clauses : m.clauses ≤ maxClauses
  within : p.Within

/-- The places where the iterations begin. -/
inductive Visits (tokens : Tokens) : Progress → Machine → Prop where
  | start : Visits tokens ⟨none, []⟩ start
  | next {p p' : Progress} {m m' : Machine} (h : Visits tokens p m) (hend : m.atEnd tokens = false)
      (hiteration : Returns (fun n => m.iteration tokens n p) ((p', m'), false)) :
      Visits tokens p' m'

/-- How the loop is left. -/
inductive Ends (p : Progress) (m : Machine) : Prop where
  | within (hclauses : m.clauses ≤ maxClauses) (h : p.Within)
  | full (before : Progress) (why : Diagnostic) (hclauses : maxClauses < m.clauses)
      (hwhy : why.fault = .tooManyClauses) (h : before.Within) (hp : p = before.report why)

theorem Goes.start (tokens : Tokens) : Goes tokens ⟨none, []⟩ start :=
  ⟨rfl, Nat.zero_le _, rfl, Nat.zero_le _, List.forall_mem_nil _⟩

theorem Goes.on (h : Goes tokens p m) (hiterates : Iterates tokens p m p' m' false) :
    Goes tokens p' m' := by
  cases hiterates with
  | on hsince hlt hwithin _ =>
    refine ⟨hsince.depth.trans h.depth, ?_, hsince.exhausted.trans h.fresh,
      hsince.clauses h.clauses, hwithin h.within⟩
    have hposition := h.position
    have hbound := hsince.within
    omega

theorem Visits.goes (h : Visits tokens p m) : Goes tokens p m := by
  induction h with
  | start => exact .start tokens
  | @next p p' m m' _ hend hiteration ih =>
    obtain ⟨t, hpeek⟩ := Option.isSome_iff_exists.mp (Option.isNone_eq_false_iff.mp hend)
    obtain ⟨p₁, m₁, leaves, hreturns, hiterates⟩ := iteration_returns p hpeek ih.depth ih.fresh
    cases hreturns.unique hiteration
    exact ih.on hiterates

theorem loop_of_atEnd (hend : m.atEnd tokens = true) :
    Returns (fun n => loop tokens n p m) (p, m) := by
  apply Returns.succ
  apply Returns.of_eq
  intro n
  rw [loop]
  exact if_pos hend

theorem loop_of_out (hend : ¬ m.atEnd tokens = true)
    (h : Returns (fun n => m.iteration tokens n p) ((p', m'), true)) :
    Returns (fun n => loop tokens n p m) (p', m') := by
  obtain ⟨n, hn⟩ := h
  refine .succ ⟨n, fun calls hcalls => ?_⟩
  have hiteration : m.iteration tokens calls p = some ((p', m'), true) := hn calls hcalls
  simp only [loop, if_neg hend, hiteration, Option.bind_eq_bind, Option.bind_some]
  rfl

theorem loop_of_on {state : Progress × Machine} (hend : ¬ m.atEnd tokens = true)
    (h : Returns (fun n => m.iteration tokens n p) ((p', m'), false))
    (h' : Returns (fun n => loop tokens n p' m') state) :
    Returns (fun n => loop tokens n p m) state := by
  obtain ⟨n, hn⟩ := h.both h'
  refine .succ ⟨n, fun calls hcalls => ?_⟩
  obtain ⟨hiteration, hloop⟩ := hn calls hcalls
  simp only [loop, if_neg hend, hiteration, Option.bind_eq_bind, Option.bind_some]
  exact hloop

theorem loop_returns (h : Goes tokens p m) : ∃ p' m',
    Returns (fun n => loop tokens n p m) (p', m') ∧ parts p (m.cursor tokens) = p' ∧
      Kept tokens m m' ∧ Ends p' m' := by
  induction hlen : (m.rest tokens).length using Nat.strongRecOn generalizing p m with
  | ind k ih =>
    subst hlen
    cases hpeek : m.peek tokens with
    | none =>
      have hend : m.atEnd tokens = true := by simp [atEnd, hpeek]
      refine ⟨p, m, loop_of_atEnd hend, ?_, .refl m, .within h.clauses h.within⟩
      rw [parts]
      exact if_pos (atEnd_eq.symm.trans hend)
    | some t =>
      have hgoes : ¬ m.atEnd tokens = true := by simp [atEnd, hpeek]
      obtain ⟨p₁, m₁, leaves, hreturns, hiterates⟩ := iteration_returns p hpeek h.depth h.fresh
      cases leaves with
      | false =>
        have hnext : Goes tokens p₁ m₁ := h.on hiterates
        cases hiterates with
        | on hsince hlt hwithin hparts =>
          obtain ⟨p', m', hloop, hp', hkept, hends⟩ := ih _ (length_rest_lt hpeek hlt) hnext rfl
          exact ⟨p', m', loop_of_on hgoes hreturns hloop, hparts.trans hp',
            hsince.toKept.trans hkept, hends⟩
      | true =>
        cases hiterates with
        | @out why m' hstopped hwhy hparts =>
          have hmany : maxClauses < m₁.clauses := (hstopped.clauses h.clauses).mpr hwhy
          exact ⟨_, m₁, loop_of_out hgoes hreturns, hparts, hstopped.toKept,
            .full p why hmany hwhy h.within rfl⟩

theorem result_parts (tokens : Tokens) :
    result (parts ⟨none, []⟩ tokens.start) = Query.ofTokens tokens := by
  unfold Query.ofTokens
  simp only
  split
  · next q hfaults hroot => simp [result, Tokens.start, hfaults, hroot]
  · next hfaults hroot => simp [result, Tokens.start, hfaults, hroot]
  · next hsome hnone =>
    have hfaults : (parts ⟨none, []⟩ tokens.start).faults ≠ [] := by
      intro hnil
      cases hroot : (parts ⟨none, []⟩ tokens.start).root with
      | none => exact hnone hnil hroot
      | some q => exact hsome q hnil hroot
    exact if_neg (by simpa using hfaults)

/-- No report of too many clauses is among the errors, unless there were too many. -/
theorem Ends.of_le (h : Ends p m) (hle : m.clauses ≤ maxClauses) {faults : List Diagnostic}
    (hfaults : result p = .error faults) : ∀ d ∈ faults, d.fault ≠ .tooManyClauses := by
  cases h with
  | full _ _ hclauses => exact absurd hle (Nat.not_le.mpr hclauses)
  | within _ hwithin =>
    unfold result at hfaults
    split at hfaults
    · split at hfaults
      · cases hfaults
      · cases hfaults
        simp
    · cases hfaults
      intro d hd
      exact hwithin d (List.mem_reverse.mp hd)

/-- Then it is the last one, and the only one. -/
theorem Ends.of_lt (h : Ends p m) (hlt : maxClauses < m.clauses) :
    ∃ before last, result p = .error (before ++ [last]) ∧ last.fault = .tooManyClauses ∧
      ∀ d ∈ before, d.fault ≠ .tooManyClauses := by
  cases h with
  | within hclauses _ => exact absurd hlt (Nat.not_lt.mpr hclauses)
  | full before why _ hwhy hwithin hp =>
    subst hp
    refine ⟨before.faults.reverse, why, ?_, hwhy, fun d hd => hwithin d (List.mem_reverse.mp hd)⟩
    simp [result, Progress.report]

theorem parse_returns (tokens : Tokens) : ∃ p m, result p = Query.ofTokens tokens ∧
    Returns (parse tokens) (result p, m) ∧ Kept tokens start m ∧ Ends p m := by
  obtain ⟨p, m, hloop, hp, hkept, hends⟩ := loop_returns (.start tokens)
  refine ⟨p, m, ?_, hloop.map _, hkept, hends⟩
  rw [← result_parts, ← hp]
  rfl

/-- The reading of a query always makes progress, and its depth counter is balanced. Every call that
reads an expression or a negation returns, with the depth it was entered with, and with the position
not before where it was nor behind the last token. Every iteration of the loop goes on behind the
position where it began, unless it leaves the loop at the limit of clauses. So the reading returns;
it reports the limit once, as the last of its errors, where there were more clauses than that, and
not at all otherwise. -/
theorem parse_makes_progress (tokens : Tokens) :
    (∀ m, ∃ answer m', Returns (fun n => expression tokens n m) (answer, m') ∧ Kept tokens m m') ∧
    (∀ m, ∃ answer m', Returns (fun n => negation tokens n m) (answer, m') ∧ Kept tokens m m') ∧
    (∀ p m, Visits tokens p m → m.depth = 0 ∧ m.position < tokens.count ∧
      (m.atEnd tokens = false → ∃ p' m' leaves,
        Returns (fun n => m.iteration tokens n p) ((p', m'), leaves) ∧ Kept tokens m m' ∧
          (leaves = false ∧ m.position < m'.position ∨ leaves = true ∧ maxClauses < m'.clauses))) ∧
    ∃ m, Returns (parse tokens) (Query.ofTokens tokens, m) ∧ Kept tokens start m ∧
      (maxClauses < m.clauses → ∃ before last, Query.ofTokens tokens = .error (before ++ [last]) ∧
        last.fault = .tooManyClauses ∧ ∀ d ∈ before, d.fault ≠ .tooManyClauses) ∧
      (m.clauses ≤ maxClauses → ∀ faults, Query.ofTokens tokens = .error faults →
        ∀ d ∈ faults, d.fault ≠ .tooManyClauses) := by
  refine ⟨fun m => ?_, fun m => ?_, fun p m hvisits => ?_, ?_⟩
  · obtain ⟨r, hr, hkept⟩ := expression_kept tokens m
    exact ⟨r.1, r.2, hr, hkept⟩
  · obtain ⟨r, hr, hkept⟩ := negation_kept tokens m
    exact ⟨r.1, r.2, hr, hkept⟩
  · have hgoes := hvisits.goes
    refine ⟨hgoes.depth, Nat.lt_succ_of_le hgoes.position, fun hend => ?_⟩
    obtain ⟨t, hpeek⟩ := Option.isSome_iff_exists.mp (Option.isNone_eq_false_iff.mp hend)
    obtain ⟨p', m', leaves, hreturns, hiterates⟩ :=
      iteration_returns p hpeek hgoes.depth hgoes.fresh
    refine ⟨p', m', leaves, hreturns, ?_⟩
    cases hiterates with
    | on hsince hlt _ _ => exact ⟨hsince.toKept, .inl ⟨rfl, hlt⟩⟩
    | out hstopped hwhy _ =>
      exact ⟨hstopped.toKept, .inr ⟨rfl, (hstopped.clauses hgoes.clauses).mpr hwhy⟩⟩
  · obtain ⟨p, m, hresult, hreturns, hkept, hends⟩ := parse_returns tokens
    rw [hresult] at hreturns
    refine ⟨m, hreturns, hkept, fun hlt => ?_, fun hle faults hfaults => ?_⟩
    · rw [← hresult]
      exact hends.of_lt hlt
    · exact hends.of_le hle (hresult.trans hfaults)

def stars (n : Nat) : Tokens :=
  ⟨(List.range n).map fun i => ⟨.wildcard "*", ⟨2 * i, 2 * i + 1⟩⟩, 2 * n - 1⟩

/-- One star more than there may be clauses. -/
theorem parse_makes_progress_of_stars :
    ∃ m, Returns (parse (stars 513)) (.error [⟨.tooManyClauses, some ⟨1024, 1025⟩⟩], m) ∧
      m.depth = 0 ∧ maxClauses < m.clauses := by
  have htokens : Query.ofTokens (stars 513) =
      .error [⟨.tooManyClauses, some ⟨1024, 1025⟩⟩] := by decide +kernel
  obtain ⟨-, -, -, m, hreturns, hkept, -, hwithin⟩ := parse_makes_progress (stars 513)
  rw [htokens] at hreturns
  refine ⟨m, hreturns, hkept.depth, Nat.lt_of_not_le fun hle => ?_⟩
  exact hwithin hle _ htokens _ List.mem_cons_self rfl

end Machine

end NetQuery
