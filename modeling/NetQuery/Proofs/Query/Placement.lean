import NetQuery.Proofs.Query.Clauses
import NetQuery.Query.FieldCheck

namespace NetQuery

namespace Grammar

open Text

def isField : Symbol → Bool
  | .field _ => true
  | _ => false

/-- Whether a token may stand between its neighbours: a colon behind a field and an operator behind
a colon, and words either in the place of a value, with no colon behind them, or as the declared
field of a clause before its colon. -/
def wellPlaced (declared : String → Bool) (before : Option Symbol) (s : Symbol)
    (next : Option Symbol) : Bool :=
  match s with
  | .colon => before.any isField
  | .operator _ => before == some .colon
  | .field name =>
    if before.any leadsOn then next != some .colon else declared name && next == some .colon
  | .value _ | .quoted _ => before.any leadsOn
  | .wildcard pattern => before.any leadsOn || pattern == "*"
  | _ => true

/-- Whether all of some tokens are well placed, with a token before them and others behind. -/
def placed (declared : String → Bool) (before : Option Symbol) : List Symbol → List Symbol → Bool
  | [], _ => true
  | s :: ts, rest =>
    wellPlaced declared before s (ts ++ rest).head? && placed declared (some s) ts rest

variable {declared : String → Bool} {before : Option Symbol} {ts us rest : List Symbol} {q : Query}

theorem placed_append : placed declared before (ts ++ us) rest =
    (placed declared before ts (us ++ rest) && placed declared (lastOf before ts) us rest) := by
  induction ts generalizing before with
  | nil => simp [placed]
  | cons s ts ih => simp [placed, ih, Bool.and_assoc]

theorem wellPlaced_of_placed {s : Symbol} (h : placed declared before (ts ++ s :: us) rest = true) :
    wellPlaced declared (lastOf before ts) s (us ++ rest).head? = true := by
  rw [placed_append, placed, Bool.and_eq_true, Bool.and_eq_true] at h
  exact h.2.1

/-- A value in its place is well placed. -/
theorem Value.wellPlaced (before : Option Symbol) {s : Symbol} {v : Literal} {next : Option Symbol}
    (h : Value s v) (hbefore : before.any leadsOn = true) (hnext : next ≠ some .colon) :
    Grammar.wellPlaced declared before s next = true := by
  cases h <;> simp [Grammar.wellPlaced, hbefore, hnext]

theorem Bound.placed (before : Option Symbol) (rest : List Symbol) {b : Option Literal}
    (h : Bound ts b) (hbefore : before.any leadsOn = true) (hrest : rest.head? ≠ some .colon) :
    Grammar.placed declared before ts rest = true := by
  cases h with
  | absent => rfl
  | star => simp [Grammar.placed, Grammar.wellPlaced]
  | value hv _ => simp [Grammar.placed, hv.wellPlaced before hbefore hrest]

theorem Condition.placed {name : String} (h : Condition name ts q)
    (hrest : rest.head? ≠ some .colon) :
    Grammar.placed declared (some .colon) ts rest = true := by
  have hvalue (before : Symbol) {s : Symbol} {v : Literal} (hv : Value s v)
      (hbefore : leadsOn before = true) :
      Grammar.placed declared (some before) [s] rest = true := by
    simp [Grammar.placed, hv.wellPlaced (some before) hbefore hrest]
  cases h with
  | eq hv | ne hv | order op hv =>
    rw [Grammar.placed, Bool.and_eq_true]
    exact ⟨rfl, hvalue _ hv rfl⟩
  | @range lo hi min max spelling hlo hhi =>
    have hfirst : Grammar.placed declared (some .openBracket) lo
        (.rangeTo spelling :: (hi ++ .closeBracket :: rest)) = true :=
      hlo.placed _ _ rfl (by simp)
    have hsecond : Grammar.placed declared (some (.rangeTo spelling)) hi
        (.closeBracket :: rest) = true :=
      hhi.placed _ _ rfl (by simp)
    simp [Grammar.placed, Grammar.wellPlaced, placed_append, hfirst, hsecond]
  | pattern s => simp [Grammar.placed, Grammar.wellPlaced, leadsOn]
  | value hv _ => exact hvalue .colon hv rfl

theorem Condition.fieldName? {name : String} (h : Condition name ts q) :
    q.fieldName? = some name := by
  cases h <;> rfl

/-- Whether a clause on the field is in order: the entity declares the field, or the clause is the
one that every record matches. -/
def declaredBy (entity : Entity) (name : String) : Bool :=
  name == Query.matchAllName || entity.hasField name

theorem Condition.isDeclared {entity : Entity} {name : String} (h : Condition name ts q)
    (hq : Query.undeclaredName? entity q = none) : declaredBy entity name = true := by
  unfold Query.undeclaredName? at hq
  rw [h.fieldName?] at hq
  split at hq
  · next hall =>
    cases h <;> first | cases hall | exact Bool.or_eq_true_iff.mpr (.inl hall)
  · have hfield : entity.hasField name = true := by
      simpa using Option.filter_eq_none_iff.mp hq name rfl
    exact Bool.or_eq_true_iff.mpr (.inr hfield)

/-- A further clause may begin behind the tokens of a phrase. -/
theorem Derives.closes {X : Nonterminal} (h : Derives X ts q) (before : Option Symbol)
    (hbefore : before.any leadsOn = false) : (lastOf before ts).any leadsOn = false :=
  (h.clausesIn before [] hbefore (by simp)).2

/-- The tokens of a phrase are well placed where its query has declared fields only. -/
theorem Derives.placed {entity : Entity} {X : Nonterminal} (h : Derives X ts q)
    (before : Option Symbol) (rest : List Symbol)
    (hnames : ∀ leaf ∈ q.leaves, Query.undeclaredName? entity leaf = none)
    (hbefore : before.any leadsOn = false) (hrest : rest.head? ≠ some .colon) :
    Grammar.placed (declaredBy entity) before ts rest = true := by
  induction h generalizing before rest with
  | expression hfirst hmore ihfirst ihmore | conjunction hfirst hmore ihfirst ihmore =>
    have hpre := hmore.leaves_prefix (by first | exact .inl rfl | exact .inr rfl)
    rw [placed_append, Bool.and_eq_true]
    exact ⟨ihfirst _ _ (fun leaf hl => hnames leaf (hpre.subset hl)) hbefore
        (hmore.head?_ne_colon hrest),
      ihmore _ _ hnames (hfirst.closes _ hbefore) hrest⟩
  | andBeside hfirst hmore ihfirst ihmore =>
    have hpre := hmore.leaves_prefix (.inr rfl)
    rw [placed_append, Bool.and_eq_true]
    exact ⟨ihfirst _ _ (fun leaf hl => hnames leaf (hpre.subset (List.mem_append_right _ hl)))
        hbefore (hmore.head?_ne_colon hrest),
      ihmore _ _ hnames (hfirst.closes _ hbefore) hrest⟩
  | orDone | andDone => rfl
  | orNext spelling hfirst hmore ihfirst ihmore | andNext spelling hfirst hmore ihfirst ihmore =>
    have hpre := hmore.leaves_prefix (by first | exact .inl rfl | exact .inr rfl)
    rw [Grammar.placed, placed_append, Bool.and_eq_true, Bool.and_eq_true]
    exact ⟨rfl, ihfirst _ _
        (fun leaf hl => hnames leaf (hpre.subset (List.mem_append_right _ hl))) rfl
        (hmore.head?_ne_colon hrest),
      ihmore _ _ hnames (hfirst.closes _ rfl) hrest⟩
  | not spelling _ ih =>
    rw [Grammar.placed, Bool.and_eq_true]
    exact ⟨rfl, ih _ _ hnames rfl hrest⟩
  | primary _ ih => exact ih _ _ hnames hbefore hrest
  | group h ih =>
    rw [Grammar.placed, placed_append, Bool.and_eq_true, Bool.and_eq_true]
    exact ⟨rfl, ih _ _ hnames rfl (by simp), rfl⟩
  | star => simp [Grammar.placed, Grammar.wellPlaced]
  | field hcond =>
    have hdeclared := hcond.isDeclared (hnames _ (by simp [Query.leaves_of_isLeaf hcond.isLeaf]))
    simp [Grammar.placed, Grammar.wellPlaced, hbefore, hdeclared, isField, hcond.placed hrest]

end Grammar

end NetQuery
