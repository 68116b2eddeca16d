import NetQuery.Proofs.Query.Faults
import NetQuery.Proofs.Token.Tiling
import Mathlib.Data.List.Nodup

namespace NetQuery

open NetQuery.Parser

/-- What tells one report from another. -/
def Diagnostic.key (d : Diagnostic) : String × Option Span :=
  (d.message, d.span)

namespace Fault

/-- The first characters of the message, which tell most kinds of faults apart. -/
def opening : Fault → String
  | missingColon _ => "Expected ':'"
  | missingValue _ | missingOperand .. => "Expected val"
  | missingTo _ => "Expected 'TO"
  | openRange _ => "Expected ']'"
  | openGroup => "Expected clo"
  | missingExpression _ => "Expected exp"
  | unexpected _ => "Unexpected t"
  | endOfQuery => "Unexpected e"
  | tooDeep => "Query nestin"
  | tooManyClauses => "Query exceed"
  | emptyQuery => "Empty query"

theorem take_message (f : Fault) : f.message.toList.take 12 = f.opening.toList := by
  have hliteral : ∀ {p s : String}, 12 ≤ p.toList.length →
      (p ++ s).toList.take 12 = p.toList.take 12 := by
    intro p s hp
    rw [String.toList_append, List.take_append_of_le_length hp]
  cases f with
  | openGroup | endOfQuery | emptyQuery => decide
  | _ =>
    unfold message opening
    simp only [String.append_assoc]
    rw [hliteral] <;> decide

theorem opening_of_message {f g : Fault} (h : f.message = g.message) : f.opening = g.opening := by
  rw [← String.toList_inj, ← take_message, ← take_message, h]

theorem eq_unexpected_of_message {f : Fault} {t : Token}
    (h : f.message = (unexpected t).message) : ∃ t', f = .unexpected t' := by
  have hopening := opening_of_message h
  cases f with
  | unexpected t' => exact ⟨t', rfl⟩
  | _ => exact absurd hopening (by simp [opening])

theorem eq_missingExpression_of_message {f : Fault} {w : Connective}
    (h : f.message = (missingExpression w).message) : ∃ w', f = .missingExpression w' := by
  have hopening := opening_of_message h
  cases f with
  | missingExpression w' => exact ⟨w', rfl⟩
  | _ => exact absurd hopening (by simp [opening])

end Fault
variable {c mid after : Cursor} {d why : Diagnostic} {t : Token} {rest : List Token}

/-- The closing parenthesis at which an expression fails that is read from here. -/
def Cursor.Refuses (c : Cursor) (d : Diagnostic) : Prop :=
  ∃ after span, expression c = .fail d after ∧ d.fault = .unexpected ⟨.closeParen, span⟩

/-- What is left to read lies in order, before the end of the text. -/
structure Cursor.Ordered (c : Cursor) : Prop where
  starts : c.rest.Pairwise fun s t => s.span.start < t.span.start
  before : ∀ t ∈ c.rest, t.span.start < c.finish

namespace Cursor.Ordered

theorem suffix (h : c.Ordered) (hrest : mid.rest <:+ c.rest) (hfinish : mid.finish = c.finish) :
    mid.Ordered where
  starts := h.starts.sublist hrest.sublist
  before := by
    intro t ht
    rw [hfinish]
    exact h.before t (hrest.mem ht)

/-- The tokens left behind some of them are in order, and behind these. -/
theorem behind {used left : List Token} (h : c.Ordered) (hrest : c.rest = used ++ left) :
    (left.Pairwise fun s t => s.span.start < t.span.start) ∧
      ∀ s ∈ used, ∀ t ∈ left, s.span.start < t.span.start := by
  have hstarts := h.starts
  rw [hrest] at hstarts
  exact (List.pairwise_append.mp hstarts).2

theorem nextSpan_le (h : c.Ordered) (ht : t ∈ c.rest) : (nextSpan c).start ≤ t.span.start := by
  have hstarts := h.starts
  unfold nextSpan
  cases hrest : c.rest with
  | nil => simp [hrest] at ht
  | cons first rest =>
    rw [hrest] at ht hstarts
    rcases List.mem_cons.mp ht with rfl | ht
    · exact Nat.le_refl _
    · exact Nat.le_of_lt ((List.pairwise_cons.mp hstarts).1 t ht)

theorem nextSpan_le_nextSpan (h : c.Ordered) (hrest : mid.rest <:+ c.rest)
    (hfinish : mid.finish = c.finish) : (nextSpan c).start ≤ (nextSpan mid).start := by
  cases hmid : mid.rest with
  | cons t rest =>
    have ht : t ∈ c.rest := hrest.mem (by simp [hmid])
    rw [show nextSpan mid = t.span by simp [nextSpan, hmid]]
    exact h.nextSpan_le ht
  | nil =>
    rw [show nextSpan mid = ⟨c.finish, c.finish⟩ by simp [nextSpan, hmid, hfinish]]
    unfold nextSpan
    split
    · next t rest hc => exact Nat.le_of_lt (h.before t (by simp [hc]))
    · exact Nat.le_refl _

end Cursor.Ordered

/-- The tokens of a text lie in order, before its end. -/
theorem ordered_of_tokenize {text : String} {tokens : Tokens} (h : tokenize text = .ok tokens) :
    Cursor.Ordered ⟨tokens.items, tokens.finish, 0⟩ := by
  obtain ⟨hlaid, hfinish⟩ := Lexer.laid_of_tokenize h
  have htile := hlaid.tile
  -- A lexeme is not empty, so a token ends behind the place where it starts.
  have hwidth : ∀ t ∈ tokens.items,
      t.span.start < t.span.stop ∧ t.span.stop ≤ byteLength text.toList := by
    intro t ht
    obtain ⟨lexeme, hne, ⟨front, back, htext, hspan⟩, -⟩ := htile.lexeme t ht
    have hpos : byteLength lexeme ≠ 0 := fun h => hne (eq_nil_of_byteLength_eq_zero h)
    rw [htext, hspan, byteLength_append, byteLength_append]
    simp only
    omega
  constructor
  · refine htile.ordered.imp_of_mem fun {s t} hs _ hle => ?_
    exact Nat.lt_of_lt_of_le (hwidth s hs).1 hle
  · intro t ht
    rw [hfinish]
    exact Nat.lt_of_lt_of_le (hwidth t ht).1 (hwidth t ht).2

namespace Parser

/-- The fault of the token at which an expression stops, or at which reading resumes. -/
def stopFault? : List Token → Option Diagnostic
  | [] => none
  | t :: rest =>
    match t.symbol with
    | .logical .not _ => some ⟨.unexpected t, some t.span⟩
    | .logical connective _ =>
      if rest.isEmpty then some ⟨.missingExpression connective, some t.span⟩ else none
    | _ => some ⟨.unexpected t, some t.span⟩

/-- The faults of one round: where the expression fails, and the token that is taken behind it. -/
def roundFaults (c : Cursor) : List Diagnostic :=
  match expression c with
  | .fail why after =>
    if why.fault = .tooManyClauses then [why] else why :: (stopFault? (resume after.rest)).toList
  | .ok _ after => (stopFault? after.rest).toList

/-- Where the next round begins, unless there were too many clauses. -/
def nextRound (c : Cursor) : Option Cursor :=
  match expression c with
  | .fail why after =>
    if why.fault = .tooManyClauses then none
    else some { after with rest := (resume after.rest).tail }
  | .ok _ after => some { after with rest := after.rest.tail }

theorem round_of_many (h : expression c = .fail why after) (hmany : why.fault = .tooManyClauses) :
    roundFaults c = [why] ∧ nextRound c = none := by
  simp [roundFaults, nextRound, h, hmany]

theorem round_of_fail (h : expression c = .fail why after) (hmany : why.fault ≠ .tooManyClauses) :
    roundFaults c = why :: (stopFault? (resume after.rest)).toList ∧
      nextRound c = some { after with rest := (resume after.rest).tail } := by
  simp [roundFaults, nextRound, h, hmany]

theorem round_of_ok {q : Query} (h : expression c = .ok q after) :
    roundFaults c = (stopFault? after.rest).toList ∧
      nextRound c = some { after with rest := after.rest.tail } := by
  simp [roundFaults, nextRound, h]

theorem takeStop_eq (p : Progress) (c : Cursor) :
    takeStop p c = ((stopFault? c.rest).elim p p.report, { c with rest := c.rest.tail }) := by
  obtain ⟨rest, finish, clauses⟩ := c
  cases rest with
  | nil => rfl
  | cons t rest =>
    obtain ⟨symbol, span⟩ := t
    unfold takeStop stopFault?
    cases symbol with
    | logical connective spelling => cases connective <;> cases rest <;> rfl
    | _ => rfl

theorem resume_suffix (ts : List Token) : resume ts <:+ ts := by
  fun_induction resume ts with
  | case1 => exact List.suffix_rfl
  | case5 t rest _ _ _ ih => exact ih.trans (List.suffix_cons ..)
  | _ => exact List.suffix_rfl

/-- Reading resumes at a closing parenthesis or a connective between expressions. -/
theorem resume_stops {ts : List Token} (h : resume ts = t :: rest) :
    t.symbol = .closeParen ∨ ∃ w spelling, t.symbol = .logical w spelling ∧ w ≠ .not := by
  fun_induction resume ts with
  | case1 => cases h
  | case2 _ _ hsymbol =>
    cases h
    exact .inl hsymbol
  | case3 _ _ spelling hsymbol =>
    cases h
    exact .inr ⟨.and, spelling, hsymbol, by simp⟩
  | case4 _ _ spelling hsymbol =>
    cases h
    exact .inr ⟨.or, spelling, hsymbol, by simp⟩
  | case5 _ _ _ _ _ ih => exact ih h

/-- The token has no place, or it is a connective with nothing behind it. -/
theorem stopFault?_cases {ts : List Token} (h : d ∈ stopFault? ts) :
    ∃ t rest, ts = t :: rest ∧
      (d = ⟨.unexpected t, some t.span⟩ ∨ ∃ w, d = ⟨.missingExpression w, some t.span⟩) := by
  unfold stopFault? at h
  split at h
  · cases h
  · next t rest =>
    refine ⟨t, rest, rfl, ?_⟩
    split at h
    · cases h
      exact .inl rfl
    · next w _ _ _ =>
      split at h
      · cases h
        exact .inr ⟨w, rfl⟩
      · cases h
    · cases h
      exact .inl rfl

theorem expression_suffix (c : Cursor) :
    (expression c).after.rest <:+ c.rest ∧ (expression c).after.finish = c.finish := by
  cases h : expression c with
  | ok q after =>
    obtain ⟨ts, n, -, ht, -⟩ := (expression_reads h).spelled
    obtain ⟨used, -, hused⟩ := ht.rest
    exact ⟨⟨used, hused.symm⟩, ht.finish⟩
  | fail why after =>
    obtain ⟨used, hused, -⟩ := (expression_fails h).shows
    exact ⟨⟨used, hused.symm⟩, (expression_fails h).finish⟩

theorem tail_suffix_tail {α : Type} {xs ys : List α} (h : xs <:+ ys) : xs.tail <:+ ys.tail := by
  obtain ⟨before, rfl⟩ := h
  cases before with
  | nil => exact List.suffix_rfl
  | cons => exact (List.tail_suffix xs).trans (List.suffix_append ..)

/-- A round takes one token at least. -/
theorem nextRound_suffix (h : nextRound c = some mid) :
    mid.rest <:+ c.rest.tail ∧ mid.finish = c.finish := by
  obtain ⟨hrest, hfinish⟩ := expression_suffix c
  cases he : expression c with
  | ok q after =>
    rw [he] at hrest hfinish
    obtain rfl := Option.some.inj ((round_of_ok he).2.symm.trans h)
    exact ⟨tail_suffix_tail hrest, hfinish⟩
  | fail why after =>
    rw [he] at hrest hfinish
    by_cases hmany : why.fault = .tooManyClauses
    · rw [(round_of_many he hmany).2] at h
      cases h
    · obtain rfl := Option.some.inj ((round_of_fail he hmany).2.symm.trans h)
      exact ⟨tail_suffix_tail ((resume_suffix after.rest).trans hrest), hfinish⟩

theorem nextRound_length_lt (h : nextRound c = some mid) (hc : c.rest ≠ []) :
    mid.rest.length < c.rest.length := by
  have hle := (nextRound_suffix h).1.length_le
  have hpos := List.length_pos_iff.mpr hc
  rw [List.length_tail] at hle
  omega

def rounds (c : Cursor) : List Cursor :=
  match _hc : c.rest with
  | [] => []
  | _ :: _ =>
    match _h : nextRound c with
    | none => [c]
    | some mid => c :: rounds mid
termination_by c.rest.length
decreasing_by exact nextRound_length_lt _h (by simp [_hc])

theorem rounds_eq_nil (hc : c.rest = []) : rounds c = [] := by
  rw [rounds]
  split
  · rfl
  · next h => simp [hc] at h

theorem rounds_eq_cons (hc : c.rest ≠ []) :
    rounds c = c :: (nextRound c).elim [] rounds := by
  rw [rounds]
  split
  · next h => exact absurd h hc
  · split
    · next hnone =>
      rw [hnone]
      rfl
    · next hsome =>
      rw [hsome]
      rfl

def reports (c : Cursor) : List Diagnostic :=
  (rounds c).flatMap roundFaults

theorem mem_reports : d ∈ reports c ↔ ∃ mid ∈ rounds c, d ∈ roundFaults mid :=
  List.mem_flatMap

/-- What is reported are the faults of the rounds. -/
theorem parts_faults (p : Progress) (c : Cursor) :
    (parts p c).faults = (reports c).reverse ++ p.faults := by
  unfold reports
  induction hlen : c.rest.length using Nat.strongRecOn generalizing p c with
  | ind k ih =>
    subst hlen
    rw [parts]
    split
    · next hc =>
      rw [rounds_eq_nil (List.isEmpty_iff.mp hc)]
      rfl
    · next hc =>
      have hne : c.rest ≠ [] := by simpa using hc
      rw [rounds_eq_cons hne, List.flatMap_cons]
      cases he : expression c with
      | ok q after =>
        obtain ⟨hfaults, hnext⟩ := round_of_ok he
        have hlt := nextRound_length_lt hnext hne
        simp only [takeStop_eq, dif_pos hlt, ih _ hlt _ _ rfl, hfaults, hnext, Option.elim_some]
        cases stopFault? after.rest <;> simp [Progress.report, Progress.add]
      | fail why after =>
        simp only
        by_cases hmany : why.fault = .tooManyClauses
        · obtain ⟨hfaults, hnext⟩ := round_of_many he hmany
          rw [if_pos hmany, hfaults, hnext]
          rfl
        · obtain ⟨hfaults, hnext⟩ := round_of_fail he hmany
          have hlt := nextRound_length_lt hnext hne
          rw [if_neg hmany]
          simp only [takeStop_eq, dif_pos hlt, ih _ hlt _ _ rfl, hfaults, hnext, Option.elim_some]
          cases stopFault? (resume after.rest) <;> simp [Progress.report]

end Parser

/-- The report shows where tokens are left to read at the cursor, and in front of later ones. -/
def Diagnostic.ShowsBefore (d : Diagnostic) (c : Cursor) (later : List Token) : Prop :=
  ∃ s, d.span = some s ∧ (nextSpan c).start ≤ s.start ∧ ∀ t ∈ later, s.start < t.span.start

theorem Cursor.Ordered.stop_showsBefore {ts : List Token} (hc : c.Ordered) (hts : ts <:+ c.rest)
    (hd : d ∈ stopFault? ts) : d.ShowsBefore c ts.tail := by
  obtain ⟨t, rest, rfl, hcases⟩ := stopFault?_cases hd
  have hspan : d.span = some t.span := by
    rcases hcases with rfl | ⟨w, rfl⟩ <;> rfl
  refine ⟨t.span, hspan, hc.nextSpan_le (hts.mem List.mem_cons_self), ?_⟩
  exact (List.pairwise_cons.mp (hc.starts.sublist hts.sublist)).1

theorem Cursor.Fails.showsBefore (h : c.Fails why after) (hc : c.Ordered) :
    why.ShowsBefore c after.rest.tail := by
  obtain ⟨used, hused, hshows⟩ := h.shows
  have hsuffix : after.rest <:+ c.rest := ⟨used, hused.symm⟩
  obtain ⟨hafter, hacross⟩ := hc.behind hused
  have hnext : ∀ {t rest}, after.rest = t :: rest →
      ∀ u ∈ after.rest.tail, t.span.start < u.span.start := by
    intro t rest hrest
    rw [hrest] at hafter ⊢
    exact (List.pairwise_cons.mp hafter).1
  cases hshows with
  | taken ht =>
    refine ⟨_, rfl, hc.nextSpan_le (by simp [hused, ht]), ?_⟩
    exact fun u hu => hacross _ ht u (List.mem_of_mem_tail hu)
  | next =>
    refine ⟨_, rfl, hc.nextSpan_le_nextSpan hsuffix h.finish, ?_⟩
    cases hrest : after.rest with
    | nil => simp
    | cons t rest =>
      rw [show nextSpan after = t.span by simp [nextSpan, hrest], ← hrest]
      exact hnext hrest
  | unexpected hrest => exact ⟨_, rfl, hc.nextSpan_le (hsuffix.mem (by simp [hrest])), hnext hrest⟩

/-- The faults of a round show in front of all that the later rounds read. -/
theorem Cursor.Ordered.round_showsBefore (hc : c.Ordered) (hd : d ∈ roundFaults c) :
    d.ShowsBefore c ((nextRound c).elim [] Cursor.rest) := by
  cases he : expression c with
  | ok q after =>
    obtain ⟨hfaults, hnext⟩ := round_of_ok he
    rw [hfaults, Option.mem_toList] at hd
    rw [hnext]
    refine hc.stop_showsBefore ?_ hd
    simpa [he, Outcome.after] using (expression_suffix c).1
  | fail why after =>
    obtain ⟨s, hspan, hfrom, hbefore⟩ := (expression_fails he).showsBefore hc
    by_cases hmany : why.fault = .tooManyClauses
    · obtain ⟨hfaults, hnext⟩ := round_of_many he hmany
      rw [hfaults, List.mem_singleton] at hd
      subst hd
      rw [hnext]
      exact ⟨s, hspan, hfrom, by simp⟩
    · obtain ⟨hfaults, hnext⟩ := round_of_fail he hmany
      rw [hfaults, List.mem_cons, Option.mem_toList] at hd
      rw [hnext]
      rcases hd with rfl | hd
      · refine ⟨s, hspan, hfrom, fun t ht => hbefore t ?_⟩
        exact (tail_suffix_tail (resume_suffix after.rest)).mem ht
      · refine hc.stop_showsBefore ((resume_suffix after.rest).trans ?_) hd
        simpa [he, Outcome.after] using (expression_suffix c).1

/-- Where an expression fails at a closing parenthesis, this is the token that is taken. -/
theorem Cursor.Refuses.round (h : c.Refuses d) : roundFaults c = [d, d] := by
  obtain ⟨after, span, he, hfault⟩ := h
  obtain ⟨used, -, hshows⟩ := (expression_fails he).shows
  rw [(round_of_fail he (by simp [hfault])).1]
  cases hshows with
  | taken _ hne => exact absurd hfault (hne _)
  | next hne _ => exact absurd hfault (hne _)
  | unexpected hrest =>
    cases hfault
    simp [hrest, resume, stopFault?]

/-- Only then is the token reported as the expression was. -/
theorem Cursor.Ordered.refuses_of_key (hc : c.Ordered) (he : expression c = .fail why after)
    (hd : d ∈ stopFault? (resume after.rest)) (hkey : why.key = d.key) : c.Refuses why := by
  obtain ⟨t, rest, hstop, hcases⟩ := stopFault?_cases hd
  obtain ⟨used, hused, hshows⟩ := (expression_fails he).shows
  have ht : t ∈ after.rest := (resume_suffix after.rest).mem (by simp [hstop])
  obtain ⟨hafter, hacross⟩ := hc.behind hused
  obtain ⟨hmessage, hspan⟩ := Prod.mk.inj hkey
  have hspan : why.span = some t.span := by
    rcases hcases with rfl | ⟨w, rfl⟩ <;> exact hspan
  cases hshows with
  | @taken fault u hu hne =>
    have hlt := hacross u hu t ht
    rw [Option.some.inj hspan] at hlt
    exact absurd hlt (Nat.lt_irrefl _)
  | next hne hword =>
    exfalso
    rcases hcases with rfl | ⟨w, rfl⟩
    · obtain ⟨t', ht'⟩ := Fault.eq_unexpected_of_message hmessage
      exact hne t' ht'
    · obtain ⟨w', hw'⟩ := Fault.eq_missingExpression_of_message hmessage
      exact hword w' hw'
  | @unexpected u behind hrest =>
    rcases hcases with rfl | ⟨w, rfl⟩
    · -- The expression fails at the token at which reading resumes, which is no connective then.
      have hspan : u.span = t.span := Option.some.inj hspan
      rw [hrest] at hafter ht
      obtain rfl : t = u := by
        rcases List.mem_cons.mp ht with rfl | ht
        · rfl
        · have hlt := (List.pairwise_cons.mp hafter).1 t ht
          rw [hspan] at hlt
          exact absurd hlt (Nat.lt_irrefl _)
      obtain ⟨symbol, span⟩ := t
      rcases resume_stops hstop with rfl | ⟨w, spelling, rfl, hw⟩
      · exact ⟨after, span, he, rfl⟩
      · rw [hstop] at hd
        cases w <;> simp [stopFault?] at hd hw
    · obtain ⟨w', hw'⟩ := Fault.eq_missingExpression_of_message hmessage
      cases hw'

/-- The faults of a round are told apart, or the last of them is the one before it once more. -/
theorem Cursor.Ordered.round_faults (hc : c.Ordered) :
    (∃ d, c.Refuses d ∧ roundFaults c = [d, d]) ∨
      (∀ d, ¬ c.Refuses d) ∧ ((roundFaults c).map Diagnostic.key).Nodup := by
  by_cases hrefuses : ∃ d, c.Refuses d
  · obtain ⟨d, hd⟩ := hrefuses
    exact .inl ⟨d, hd, hd.round⟩
  · rw [not_exists] at hrefuses
    refine .inr ⟨hrefuses, ?_⟩
    cases he : expression c with
    | ok q after =>
      rw [(round_of_ok he).1]
      cases stopFault? after.rest <;> simp
    | fail why after =>
      by_cases hmany : why.fault = .tooManyClauses
      · rw [(round_of_many he hmany).1]
        simp
      · rw [(round_of_fail he hmany).1]
        cases hstop : stopFault? (resume after.rest) with
        | none => simp
        | some d =>
          have hne : why.key ≠ d.key := fun hkey => hrefuses why (hc.refuses_of_key he hstop hkey)
          simpa using hne

theorem Cursor.Ordered.next (hc : c.Ordered) (h : nextRound c = some mid) : mid.Ordered := by
  obtain ⟨hsuffix, hfinish⟩ := nextRound_suffix h
  exact hc.suffix (hsuffix.trans (List.tail_suffix _)) hfinish

/-- What the rounds read lies in order, and no round begins before the first. -/
theorem Cursor.Ordered.of_mem_rounds (hc : c.Ordered) (h : mid ∈ rounds c) :
    mid.Ordered ∧ mid.rest <:+ c.rest ∧ mid.rest ≠ [] := by
  fun_induction rounds c with
  | case1 => cases h
  | case2 c t rest hrest hnext =>
    obtain rfl := List.mem_singleton.mp h
    exact ⟨hc, List.suffix_rfl, by simp [hrest]⟩
  | case3 c t rest hrest next hnext ih =>
    rcases List.mem_cons.mp h with rfl | h
    · exact ⟨hc, List.suffix_rfl, by simp [hrest]⟩
    · obtain ⟨hmid, hsuffix, hne⟩ := ih (hc.next hnext) h
      exact ⟨hmid, hsuffix.trans ((nextRound_suffix hnext).1.trans (List.tail_suffix _)), hne⟩

/-- No fault of a round is reported by a later one. -/
theorem Cursor.Ordered.key_ne (hc : c.Ordered) {next : Cursor} (hnext : nextRound c = some next)
    {d' : Diagnostic} (hd : d ∈ roundFaults c) (hmid : mid ∈ rounds next)
    (hd' : d' ∈ roundFaults mid) : d.key ≠ d'.key := by
  obtain ⟨hordered, hrest, hne⟩ := (hc.next hnext).of_mem_rounds hmid
  obtain ⟨s, hspan, -, hbefore⟩ := hc.round_showsBefore hd
  obtain ⟨s', hspan', hfrom, -⟩ := hordered.round_showsBefore hd'
  rw [hnext] at hbefore
  obtain ⟨t, rest, hmidRest⟩ := List.exists_cons_of_ne_nil hne
  have hlt := hbefore t (hrest.mem (by simp [hmidRest]))
  rw [show nextSpan mid = t.span by simp [nextSpan, hmidRest]] at hfrom
  intro hkey
  have hspans := (Prod.mk.inj hkey).2
  rw [hspan, hspan', Option.some.injEq] at hspans
  subst hspans
  omega

/-- No two rounds report the same. -/
theorem Cursor.Ordered.rounds_disjoint (hc : c.Ordered) :
    (rounds c).Pairwise fun mid mid' =>
      ((roundFaults mid).map Diagnostic.key).Disjoint ((roundFaults mid').map Diagnostic.key) := by
  fun_induction rounds c with
  | case1 => exact .nil
  | case2 => exact List.pairwise_singleton _ _
  | case3 c t rest hrest next hnext ih =>
    refine .cons (fun mid hmid key hkey hkey' => ?_) (ih (hc.next hnext))
    obtain ⟨d, hd, rfl⟩ := List.mem_map.mp hkey
    obtain ⟨d', hd', heq⟩ := List.mem_map.mp hkey'
    exact hc.key_ne hnext hd hmid hd' heq.symm

/-- In some round an expression fails at this closing parenthesis. -/
def Cursor.EverRefuses (c : Cursor) (d : Diagnostic) : Prop :=
  ∃ mid ∈ rounds c, mid.Refuses d

theorem Cursor.EverRefuses.mem (h : c.EverRefuses d) : d ∈ reports c := by
  obtain ⟨mid, hmid, hrefuses⟩ := h
  exact mem_reports.mpr ⟨mid, hmid, by simp [hrefuses.round]⟩

/-- What one list of several holds is counted there, where no two have anything in common. -/
theorem count_flatMap_of_disjoint {α β : Type} [BEq β] [LawfulBEq β] {xs : List α} {f : α → List β}
    (h : xs.Pairwise fun a b => (f a).Disjoint (f b)) {a : α} {b : β} (ha : a ∈ xs) (hb : b ∈ f a) :
    (xs.flatMap f).count b = (f a).count b := by
  obtain ⟨front, back, rfl⟩ := List.append_of_mem ha
  obtain ⟨-, hback, hfront⟩ := List.pairwise_append.mp h
  have hnone : ∀ {ys : List α}, (∀ y ∈ ys, b ∉ f y) → (ys.flatMap f).count b = 0 := by
    intro ys hys
    rw [List.count_eq_zero, List.mem_flatMap]
    rintro ⟨y, hy, hmem⟩
    exact hys y hy hmem
  rw [List.flatMap_append, List.flatMap_cons, List.count_append, List.count_append,
    hnone fun y hy hmem => hfront y hy a List.mem_cons_self hmem hb,
    hnone fun y hy => (List.pairwise_cons.mp hback).1 y hy hb]
  omega

theorem Cursor.Ordered.count_round (hc : c.Ordered) (hmid : mid ∈ rounds c)
    (hd : d ∈ roundFaults mid) : ((reports c).map Diagnostic.key).count d.key =
      ((roundFaults mid).map Diagnostic.key).count d.key := by
  rw [reports, List.map_flatMap]
  exact count_flatMap_of_disjoint hc.rounds_disjoint hmid (List.mem_map_of_mem hd)

theorem Cursor.Ordered.count_refused (hc : c.Ordered) (h : c.EverRefuses d) :
    ((reports c).map Diagnostic.key).count d.key = 2 := by
  obtain ⟨mid, hmid, hrefuses⟩ := h
  rw [hc.count_round hmid (by simp [hrefuses.round]), hrefuses.round]
  simp

/-- A refused closing parenthesis is reported twice, and every other fault once. -/
theorem Cursor.Ordered.count_key (hc : c.Ordered) (hd : d ∈ reports c) :
    c.EverRefuses d ∧ ((reports c).map Diagnostic.key).count d.key = 2 ∨
      ¬ c.EverRefuses d ∧ ((reports c).map Diagnostic.key).count d.key = 1 := by
  obtain ⟨mid, hmid, hd⟩ := mem_reports.mp hd
  rcases (hc.of_mem_rounds hmid).1.round_faults with ⟨d', hd', hfaults⟩ | ⟨-, hnodup⟩
  · obtain rfl : d = d' := by simpa [hfaults] using hd
    have hever : c.EverRefuses d := ⟨mid, hmid, hd'⟩
    exact .inl ⟨hever, hc.count_refused hever⟩
  · have hone : ((reports c).map Diagnostic.key).count d.key = 1 := by
      rw [hc.count_round hmid hd]
      exact List.count_eq_one_of_mem hnodup (List.mem_map_of_mem hd)
    refine .inr ⟨fun hever => ?_, hone⟩
    have htwo := hc.count_refused hever
    omega

theorem faults_parts_start (tokens : Tokens) :
    (parts ⟨none, []⟩ tokens.start).faults = (reports tokens.start).reverse := by
  rw [parts_faults, List.append_nil]

/-- The faults of a text are those of the rounds, unless it is empty. -/
theorem Query.ofTokens_eq_error {tokens : Tokens} {ds : List Diagnostic}
    (h : ofTokens tokens = .error ds) :
    ds = reports tokens.start ∨ reports tokens.start = [] ∧ ds = [⟨.emptyQuery, none⟩] := by
  have hfaults := faults_parts_start tokens
  unfold ofTokens at h
  simp only at h
  split at h
  · cases h
  · next hnone _ =>
    cases h
    exact .inr ⟨List.reverse_eq_nil_iff.mp (hfaults.symm.trans hnone), rfl⟩
  · cases h
    exact .inl ((congrArg List.reverse hfaults).trans (List.reverse_reverse _))

theorem Query.ofTokens_of_reports {tokens : Tokens} (h : reports tokens.start ≠ []) :
    ofTokens tokens = .error (reports tokens.start) := by
  have hfaults := faults_parts_start tokens
  have hsome : (parts ⟨none, []⟩ tokens.start).faults ≠ [] := by
    rw [hfaults]
    simpa using h
  unfold ofTokens
  simp only
  split
  · next hnone _ => exact absurd hnone hsome
  · next hnone _ => exact absurd hnone hsome
  · exact congrArg Except.error ((congrArg List.reverse hfaults).trans (List.reverse_reverse _))

/-- A closing parenthesis at which an expression fails is reported twice, with one message and one
place; every other fault of a text is told from all that are reported with it. -/
theorem Query.ofTokens_reports_once {text : String} {tokens : Tokens} {ds : List Diagnostic}
    (htokens : tokenize text = .ok tokens) (h : ofTokens tokens = .error ds) :
    (∀ d ∈ ds,
      tokens.start.EverRefuses d ∧ (ds.map Diagnostic.key).count d.key = 2 ∨
        ¬ tokens.start.EverRefuses d ∧ (ds.map Diagnostic.key).count d.key = 1) ∧
      ((ds.map Diagnostic.key).Nodup ↔ ∀ d, ¬ tokens.start.EverRefuses d) := by
  have hc : tokens.start.Ordered := ordered_of_tokenize htokens
  rcases ofTokens_eq_error h with rfl | ⟨hnone, rfl⟩
  · refine ⟨fun d hd => hc.count_key hd, fun hnodup d hd => ?_, fun hnever => ?_⟩
    · have hle := List.nodup_iff_count_le_one.mp hnodup d.key
      have htwo := hc.count_refused hd
      omega
    · rw [List.nodup_iff_count_le_one]
      intro key
      by_cases hkey : key ∈ (reports tokens.start).map Diagnostic.key
      · obtain ⟨d, hd, rfl⟩ := List.mem_map.mp hkey
        rcases hc.count_key hd with ⟨hever, -⟩ | ⟨-, hone⟩
        · exact absurd hever (hnever d)
        · omega
      · rw [List.count_eq_zero.mpr hkey]
        omega
  · have hnever : ∀ d, ¬ tokens.start.EverRefuses d := by
      intro d hd
      have hmem := hd.mem
      rw [hnone] at hmem
      cases hmem
    refine ⟨fun d hd => .inr ⟨hnever d, ?_⟩, iff_of_true (by simp) hnever⟩
    rw [List.mem_singleton.mp hd]
    simp

/-- Reading resumes at the first closing parenthesis, and the next round fails at the second one. -/
theorem Query.ofTokens_reports_once_of_missing_value :
    ∃ tokens ds, tokenize "a: ) )" = .ok tokens ∧ ofTokens tokens = .error ds ∧
      ds.map Diagnostic.message = ["Expected value after field 'a:'",
        "Unexpected token ')' at position 3", "Unexpected token ')' at position 5",
        "Unexpected token ')' at position 5"] ∧
      tokens.start.EverRefuses ⟨.unexpected ⟨.closeParen, ⟨5, 6⟩⟩, some ⟨5, 6⟩⟩ ∧
      ¬ tokens.start.EverRefuses ⟨.unexpected ⟨.closeParen, ⟨3, 4⟩⟩, some ⟨3, 4⟩⟩ := by
  let first : Diagnostic := ⟨.unexpected ⟨.closeParen, ⟨3, 4⟩⟩, some ⟨3, 4⟩⟩
  let second : Diagnostic := ⟨.unexpected ⟨.closeParen, ⟨5, 6⟩⟩, some ⟨5, 6⟩⟩
  let items : List Token := [⟨.field "a", ⟨0, 1⟩⟩, ⟨.colon, ⟨1, 2⟩⟩, ⟨.closeParen, ⟨3, 4⟩⟩,
    ⟨.closeParen, ⟨5, 6⟩⟩]
  let ds : List Diagnostic := [⟨.missingValue "a", some ⟨0, 1⟩⟩, first, second, second]
  have htokens : tokenize "a: ) )" = .ok ⟨items, 6⟩ := by decide +kernel
  have hds : ofTokens ⟨items, 6⟩ = .error ds := by decide +kernel
  obtain ⟨hreports, -⟩ := ofTokens_reports_once htokens hds
  have hfirst : (ds.map Diagnostic.key).count first.key = 1 := by decide +kernel
  have hsecond : (ds.map Diagnostic.key).count second.key = 2 := by decide +kernel
  refine ⟨_, ds, htokens, hds, by decide +kernel, ?_, ?_⟩
  · rcases hreports second (by simp [ds]) with ⟨hever, -⟩ | ⟨-, hone⟩
    · exact hever
    · rw [hsecond] at hone
      cases hone
  · rcases hreports first (by simp [ds]) with ⟨-, htwo⟩ | ⟨hnot, -⟩
    · rw [hfirst] at htwo
      cases htwo
    · exact hnot

/-- A closing parenthesis alone is reported where the expression fails, and again where reading
resumes. -/
theorem Query.ofTokens_repeats_closeParen :
    ∃ tokens ds, tokenize ")" = .ok tokens ∧ ofTokens tokens = .error ds ∧
      ¬ (ds.map Diagnostic.key).Nodup := by
  let d : Diagnostic := ⟨.unexpected ⟨.closeParen, ⟨0, 1⟩⟩, some ⟨0, 1⟩⟩
  have htokens : tokenize ")" = .ok ⟨[⟨.closeParen, ⟨0, 1⟩⟩], 1⟩ := by decide +kernel
  have hds : ofTokens ⟨[⟨.closeParen, ⟨0, 1⟩⟩], 1⟩ = .error [d, d] := by decide +kernel
  exact ⟨_, _, htokens, hds, by simp⟩

end NetQuery
