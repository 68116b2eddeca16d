import NetQuery.Proofs.Query.Reading
import NetQuery.Proofs.Text.Delimited

namespace NetQuery

namespace Grammar

open Text

/-- Whether the token behind this one belongs to the same clause in any case. -/
def leadsOn : Symbol → Bool
  | .colon | .operator _ | .openBracket | .rangeTo _ => true
  | _ => false

/-- Whether a clause begins with a token between its neighbours: a field before its colon, or a star
that is no value. -/
def beginsClause (before : Option Symbol) (s : Symbol) (next : Option Symbol) : Bool :=
  match s with
  | .field _ => next == some .colon
  | .wildcard pattern => pattern == "*" && !before.any leadsOn
  | _ => false

/-- How many clauses begin in some tokens, with a token before them and others behind. -/
def clausesIn (before : Option Symbol) : List Symbol → List Symbol → Nat
  | [], _ => 0
  | s :: ts, rest =>
    (beginsClause before s (ts ++ rest).head?).toNat + clausesIn (some s) ts rest

def clausesPerPart (before : Option Symbol) : List (List Symbol) → List Nat
  | [] => []
  | part :: parts =>
    clausesIn before part parts.flatten :: clausesPerPart (lastOf before part) parts

variable {before : Option Symbol} {ts us rest : List Symbol} {q left : Query}

theorem clausesIn_append (before : Option Symbol) (ts us rest : List Symbol) :
    clausesIn before (ts ++ us) rest =
      clausesIn before ts (us ++ rest) + clausesIn (lastOf before ts) us rest := by
  induction ts generalizing before with
  | nil => simp [clausesIn]
  | cons s ts ih => simp [clausesIn, ih, Nat.add_assoc]

theorem clausesIn_cons {s : Symbol} (hs : beginsClause before s (ts ++ rest).head? = false) :
    clausesIn before (s :: ts) rest = clausesIn (some s) ts rest := by
  rw [clausesIn, hs, Bool.toNat_false, Nat.zero_add]

theorem sum_clausesPerPart (before : Option Symbol) (parts : List (List Symbol)) :
    (clausesPerPart before parts).sum = clausesIn before parts.flatten [] := by
  induction parts generalizing before with
  | nil => rfl
  | cons part parts ih =>
    simp [clausesPerPart, ih, clausesIn_append]

theorem exists_of_clausesIn_pos (h : 0 < clausesIn before ts rest) :
    ∃ s ∈ ts, (∃ name, s = .field name) ∨ s = .wildcard "*" := by
  induction ts generalizing before with
  | nil => exact absurd h (Nat.lt_irrefl 0)
  | cons s ts ih =>
    cases hs : beginsClause before s (ts ++ rest).head? with
    | false =>
      simp only [clausesIn, hs, Bool.toNat_false, Nat.zero_add] at h
      obtain ⟨s', hs', hkind⟩ := ih h
      exact ⟨s', List.mem_cons_of_mem s hs', hkind⟩
    | true =>
      refine ⟨s, List.mem_cons_self, ?_⟩
      cases s with
      | field name => exact .inl ⟨name, rfl⟩
      | wildcard pattern =>
        simp only [beginsClause, Bool.and_eq_true, beq_iff_eq] at hs
        exact .inr (congrArg Symbol.wildcard hs.1)
      | _ => cases hs

/-- A value in its place begins no clause. -/
theorem Value.begins (before : Option Symbol) {s : Symbol} {v : Literal} {next : Option Symbol}
    (h : Value s v)
    (hbefore : before.any leadsOn = true) (hnext : next ≠ some .colon) :
    beginsClause before s next = false ∧ leadsOn s = false := by
  cases h <;> simp [beginsClause, leadsOn, hbefore, hnext]

theorem Bound.clausesIn (before : Option Symbol) (rest : List Symbol) {b : Option Literal}
    (h : Bound ts b) (hbefore : before.any leadsOn = true)
    (hrest : rest.head? ≠ some .colon) : clausesIn before ts rest = 0 := by
  cases h with
  | absent => rfl
  | star => simp [Grammar.clausesIn, beginsClause, hbefore]
  | value hv => simp [Grammar.clausesIn, (hv.begins before hbefore hrest).1]

/-- No clause begins behind the colon of another one, and the next one may begin behind its end. -/
theorem Condition.clausesIn {name : String} (h : Condition name ts q)
    (hrest : rest.head? ≠ some .colon) : clausesIn (some .colon) ts rest = 0 ∧
      (lastOf (some .colon) ts).any leadsOn = false ∧ q.leaves = [q] := by
  have hvalue (before : Symbol) {s : Symbol} {v : Literal} (hv : Value s v)
      (hbefore : leadsOn before = true) :
      Grammar.clausesIn (some before) [s] rest = 0 ∧ leadsOn s = false := by
    obtain ⟨hs, hlast⟩ := hv.begins (some before) (by simpa using hbefore) hrest
    exact ⟨clausesIn_cons hs, hlast⟩
  cases h with
  | eq hv | ne hv | order op hv =>
    obtain ⟨hs, hlast⟩ := hvalue (.operator _) hv rfl
    exact ⟨(clausesIn_cons rfl).trans hs, by simpa using hlast, rfl⟩
  | @range lo hi min max spelling hlo hhi =>
    have hfirst := hlo.clausesIn (some .openBracket)
      (.rangeTo spelling :: (hi ++ [.closeBracket]) ++ rest) rfl (by simp)
    have hsecond := hhi.clausesIn (some (.rangeTo spelling)) ([.closeBracket] ++ rest) rfl (by simp)
    refine ⟨?_, by simp [lastOf_append, leadsOn], by simp [Query.leaves]⟩
    simp [Grammar.clausesIn, beginsClause, clausesIn_append] at hfirst hsecond ⊢
    exact ⟨hfirst, hsecond⟩
  | pattern s => simp [Grammar.clausesIn, beginsClause, leadsOn, Query.leaves]
  | value hv =>
    obtain ⟨hs, hlast⟩ := hvalue .colon hv rfl
    exact ⟨hs, by simpa using hlast, rfl⟩

theorem Derives.head?_ne_colon {X : Nonterminal} (h : Derives X ts q)
    (hrest : rest.head? ≠ some .colon) : (ts ++ rest).head? ≠ some .colon := by
  have hwhole {X : Nonterminal} {ts us : List Symbol} {q : Query} (h : Derives X ts q)
      (hX : X.isWhole = true) : (ts ++ us).head? ≠ some .colon := by
    obtain ⟨s, more, rfl, hs⟩ := h.starts hX
    rintro ⟨⟩
    cases hs
  cases h with
  | orDone | andDone => exact hrest
  | orNext | andNext => simp
  | andBeside hfirst _ =>
    rw [List.append_assoc]
    exact hwhole hfirst rfl
  | expression hfirst _ =>
    rw [List.append_assoc]
    exact hwhole hfirst rfl
  | conjunction hfirst _ =>
    rw [List.append_assoc]
    exact hwhole hfirst rfl
  | not | group | field | star => simp
  | primary h => exact hwhole h rfl

/-- As many clauses begin in the tokens of a phrase as its query has, and the next one may begin
behind it. -/
theorem Derives.clausesIn (before : Option Symbol) (rest : List Symbol) {X : Nonterminal}
    (h : Derives X ts q)
    (hbefore : before.any leadsOn = false) (hrest : rest.head? ≠ some .colon) :
    X.clausesBefore + clausesIn before ts rest = q.leaves.length ∧
      (lastOf before ts).any leadsOn = false := by
  induction h generalizing before rest with
  | expression _ hmore ihfirst ihmore | conjunction _ hmore ihfirst ihmore
  | andBeside _ hmore ihfirst ihmore =>
    obtain ⟨hcount, hlast⟩ := ihfirst before _ hbefore (hmore.head?_ne_colon hrest)
    obtain ⟨hcount', hlast'⟩ := ihmore _ rest hlast hrest
    simp only [Nonterminal.clausesBefore, Query.leaves, List.length_append] at hcount hcount' ⊢
    rw [clausesIn_append, lastOf_append]
    exact ⟨by omega, hlast'⟩
  | orDone | andDone => simp [Grammar.clausesIn, Nonterminal.clausesBefore, hbefore]
  | orNext spelling _ hmore ihfirst ihmore | andNext spelling _ hmore ihfirst ihmore =>
    obtain ⟨hcount, hlast⟩ := ihfirst (some (.logical _ spelling)) _ rfl
      (hmore.head?_ne_colon hrest)
    obtain ⟨hcount', hlast'⟩ := ihmore _ rest hlast hrest
    simp only [Nonterminal.clausesBefore, Query.leaves, List.length_append] at hcount hcount' ⊢
    rw [clausesIn_cons rfl, clausesIn_append, lastOf_cons, lastOf_append]
    exact ⟨by omega, hlast'⟩
  | not spelling _ ih =>
    obtain ⟨hcount, hlast⟩ := ih (some (.logical .not spelling)) rest rfl hrest
    rw [clausesIn_cons rfl, lastOf_cons]
    exact ⟨hcount, hlast⟩
  | primary _ ih => exact ih before rest hbefore hrest
  | group _ ih =>
    obtain ⟨hcount, -⟩ := ih (some .openParen) ([.closeParen] ++ rest) rfl (by simp)
    rw [clausesIn_cons rfl, clausesIn_append, lastOf_cons, lastOf_append]
    exact ⟨hcount, rfl⟩
  | star =>
    simp [Grammar.clausesIn, beginsClause, Nonterminal.clausesBefore, hbefore, Query.matchAll,
      Query.leaves, leadsOn]
  | field hcond =>
    obtain ⟨hnone, hlast, hleaf⟩ := hcond.clausesIn hrest
    simp [Grammar.clausesIn, beginsClause, Nonterminal.clausesBefore, hnone, hlast, hleaf]

end Grammar

end NetQuery
