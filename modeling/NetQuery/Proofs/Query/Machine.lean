import NetQuery.Query.Parser

namespace NetQuery

open NetQuery.Parser

/-- Where a reading stands. -/
structure Machine where
  /-- The number of tokens behind it. -/
  position : Nat
  /-- The number of expressions and negations it is in. -/
  depth : Nat
  clauses : Nat
  /-- Whether there were too many clauses. -/
  exhausted : Bool
  deriving DecidableEq, Repr

def Tokens.count (tokens : Tokens) : Nat :=
  tokens.items.length + 1

namespace Machine

/-- What a reading comes to, and where it stops. -/
abbrev Answer (α : Type) := Except Diagnostic α × Machine

variable (tokens : Tokens)

/-- The next token; there is none at the mark of the end, which also counts as what is behind it. -/
def peek (m : Machine) : Option Token :=
  tokens.items[m.position]?

def atEnd (m : Machine) : Bool :=
  (m.peek tokens).isNone

def nextSpan (m : Machine) : Span :=
  ((m.peek tokens).map Token.span).getD ⟨tokens.finish, tokens.finish⟩

/-- Goes on behind the next token or the mark of the end, if there still is one. -/
def advance (m : Machine) : Machine :=
  { m with position := if m.position < tokens.count then m.position + 1 else m.position }

def deeper (m : Machine) : Machine :=
  { m with depth := m.depth + 1 }

def shallower (m : Machine) : Machine :=
  { m with depth := m.depth - 1 }

def literal (m : Machine) : Option Literal × Machine :=
  match (m.peek tokens).bind fun t => literal? t.symbol with
  | some value => (some value, m.advance tokens)
  | none => (none, m)

def bound (m : Machine) : Option Literal × Machine :=
  if (m.peek tokens).any fun t => isStar t.symbol then (none, m.advance tokens)
  else m.literal tokens

def rangeBody (name : String) (m : Machine) : Answer Query :=
  let (min, m) := m.bound tokens
  match m.peek tokens with
  | some ⟨.rangeTo _, _⟩ =>
    let (max, m) := (m.advance tokens).bound tokens
    match m.peek tokens with
    | some ⟨.closeBracket, _⟩ => (.ok (.range name min max true), m.advance tokens)
    | _ => (.error ⟨.openRange name, some (m.nextSpan tokens)⟩, m)
  | _ => (.error ⟨.missingTo name, some (m.nextSpan tokens)⟩, m)

def fieldValue (name : String) (fieldSpan : Span) (m : Machine) : Answer Query :=
  match m.peek tokens with
  | some ⟨.operator op, span⟩ =>
    match (m.advance tokens).literal tokens with
    | (some value, m) => (.ok (operatorClause name value op), m)
    | (none, m) => (.error ⟨.missingOperand op name, some span⟩, m)
  | some ⟨.openBracket, _⟩ => (m.advance tokens).rangeBody tokens name
  | some ⟨.wildcard pattern, _⟩ => (.ok (.wildcard name pattern), m.advance tokens)
  | _ =>
    match m.literal tokens with
    | (some value, m) => (.ok (.field name value none), m)
    | (none, m) => (.error ⟨.missingValue name, some fieldSpan⟩, m)

def fieldClause (name : String) (fieldSpan : Span) (m : Machine) : Answer Query :=
  let m := m.advance tokens
  match m.peek tokens with
  | some ⟨.colon, _⟩ => (m.advance tokens).fieldValue tokens name fieldSpan
  | _ => (.error ⟨.missingColon name, some fieldSpan⟩, m)

def tallied (m : Machine) : Machine :=
  { m with clauses := m.clauses + 1 }

/-- Counts a clause; `read` goes on unless there are too many. -/
def counted (span : Span) (m : Machine) (read : Machine → Answer Query) : Answer Query :=
  let m := m.tallied
  if maxClauses < m.clauses then
    (.error ⟨.tooManyClauses, some span⟩, { m with exhausted := true })
  else read m

def closeGroup (body : Query) (m : Machine) : Answer Query :=
  match m.peek tokens with
  | some ⟨.closeParen, _⟩ => (.ok (.group body), m.advance tokens)
  | _ => (.error ⟨.openGroup, some (m.nextSpan tokens)⟩, m)

mutual

def expression : Nat → Machine → Option (Answer Query)
  | 0, _ => none
  | calls + 1, m => do
    let m := m.deeper
    if maxDepth < m.depth then
      let m := m.shallower
      return (.error ⟨.tooDeep, some (m.nextSpan tokens)⟩, m)
    let (result, m) ← disjunction calls m
    return (result, m.shallower)

def disjunction : Nat → Machine → Option (Answer Query)
  | 0, _ => none
  | calls + 1, m => do
    match ← conjunction calls m with
    | (.error why, m) => return (.error why, m)
    | (.ok left, m) => disjunctionFrom calls left m

def disjunctionFrom : Nat → Query → Machine → Option (Answer Query)
  | 0, _, _ => none
  | calls + 1, left, m => do
    match m.peek tokens with
    | some ⟨.logical .or _, span⟩ =>
      let m := m.advance tokens
      if m.atEnd tokens then return (.error ⟨.missingExpression .or, some span⟩, m)
      match ← conjunction calls m with
      | (.error why, m) => return (.error why, m)
      | (.ok right, m) => disjunctionFrom calls (.or left right) m
    | _ => return (.ok left, m)

def conjunction : Nat → Machine → Option (Answer Query)
  | 0, _ => none
  | calls + 1, m => do
    match ← negation calls m with
    | (.error why, m) => return (.error why, m)
    | (.ok left, m) => conjunctionFrom calls left m

def conjunctionFrom : Nat → Query → Machine → Option (Answer Query)
  | 0, _, _ => none
  | calls + 1, left, m => do
    match m.peek tokens with
    | some ⟨.logical .and _, span⟩ =>
      let m := m.advance tokens
      if m.atEnd tokens then return (.error ⟨.missingExpression .and, some span⟩, m)
      conjunctionWith calls left m
    | some t => if startsClause t.symbol then conjunctionWith calls left m else return (.ok left, m)
    | none => return (.ok left, m)

/-- Reads the next operand of a conjunction after `left`, and those behind it. -/
def conjunctionWith : Nat → Query → Machine → Option (Answer Query)
  | 0, _, _ => none
  | calls + 1, left, m => do
    match ← negation calls m with
    | (.error why, m) => return (.error why, m)
    | (.ok right, m) => conjunctionFrom calls (.and left right) m

/-- Reads a clause or group, or a negation, whose operand is one level deeper. -/
def negation : Nat → Machine → Option (Answer Query)
  | 0, _ => none
  | calls + 1, m => do
    match m.peek tokens with
    | some ⟨.logical .not _, span⟩ =>
      let m := m.advance tokens
      if isDangling (m.peek tokens).toList then
        return (.error ⟨.missingExpression .not, some span⟩, m)
      let m := m.deeper
      if maxDepth < m.depth then return (.error ⟨.tooDeep, some span⟩, m.shallower)
      let (operand, m) ← negation calls m
      return (operand.map .not, m.shallower)
    | _ => primary calls m

def primary : Nat → Machine → Option (Answer Query)
  | 0, _ => none
  | calls + 1, m => do
    match m.peek tokens with
    | some ⟨.openParen, _⟩ => group calls (m.advance tokens)
    | some ⟨.field name, span⟩ => return m.counted span fun m => m.fieldClause tokens name span
    | some t =>
      if isStar t.symbol then return m.counted t.span fun m => (.ok .matchAll, m.advance tokens)
      return (.error ⟨.unexpected t, some t.span⟩, m)
    | none => return (.error ⟨.endOfQuery, some (m.nextSpan tokens)⟩, m)

def group : Nat → Machine → Option (Answer Query)
  | 0, _ => none
  | calls + 1, m => do
    match ← expression calls m with
    | (.error why, m) => return (.error why, m)
    | (.ok body, m) => return m.closeGroup tokens body

end

/-- Passes over tokens up to AND, OR or a closing parenthesis. -/
def synchronize : Nat → Machine → Option Machine
  | 0, _ => none
  | turns + 1, m =>
    match m.peek tokens with
    | none | some ⟨.closeParen, _⟩ | some ⟨.logical .and _, _⟩ | some ⟨.logical .or _, _⟩ => some m
    | _ => synchronize turns (m.advance tokens)

/-- Takes the token at which an expression stopped: a connective, or one that has no place. -/
def takeStop (p : Progress) (m : Machine) : Progress × Machine :=
  match m.peek tokens with
  | none => (p, m)
  | some t =>
    let after := m.advance tokens
    match t.symbol with
    | .logical .not _ => (p.report ⟨.unexpected t, some t.span⟩, after)
    | .logical connective _ =>
      if after.atEnd tokens then (p.report ⟨.missingExpression connective, some t.span⟩, after)
      else (p, after)
    | _ => (p.report ⟨.unexpected t, some t.span⟩, after)

/-- One iteration of the loop, and whether it leaves the loop, as there were too many clauses. -/
def iteration (calls : Nat) (p : Progress) (m : Machine) :
    Option ((Progress × Machine) × Bool) := do
  match ← m.expression tokens calls with
  | (.ok q, m) => return (m.takeStop tokens (p.add q), false)
  | (.error why, m) =>
    if m.exhausted then return ((p.report why, m), true)
    let m ← m.synchronize tokens calls
    return (m.takeStop tokens (p.report why), false)

/-- Reads expression after expression until no token is left, or there are too many clauses. -/
def loop : Nat → Progress → Machine → Option (Progress × Machine)
  | 0, _, _ => none
  | calls + 1, p, m => do
    if m.atEnd tokens then return (p, m)
    match ← m.iteration tokens calls p with
    | (state, true) => return state
    | ((p, m), false) => loop calls p m

def start : Machine :=
  ⟨0, 0, 0, false⟩

/-- The query that was read, or all faults in the order in which they were met. -/
def result (p : Progress) : Except (List Diagnostic) Query :=
  if p.faults.isEmpty then
    match p.root with
    | some q => .ok q
    | none => .error [⟨.emptyQuery, none⟩]
  else .error p.faults.reverse

def parse (calls : Nat) : Option (Except (List Diagnostic) Query × Machine) :=
  (start.loop tokens calls ⟨none, []⟩).map fun state => (result state.1, state.2)

end Machine

end NetQuery
