import NetQuery.Query.Diagnostic
import NetQuery.Query.Tree

namespace NetQuery

/-- The tokens still to read and the clauses read so far. -/
structure Cursor where
  rest : List Token
  /-- Where the text ends. -/
  finish : Nat
  clauses : Nat
  deriving DecidableEq, Repr

inductive Outcome (α : Type) where
  | ok (value : α) (after : Cursor)
  | fail (why : Diagnostic) (after : Cursor)
  deriving Repr

def Outcome.map {α β : Type} (f : α → β) : Outcome α → Outcome β
  | ok value after => ok (f value) after
  | fail why after => fail why after

def Outcome.after {α : Type} : Outcome α → Cursor
  | ok _ after => after
  | fail _ after => after

namespace Parser

def nextSpan (c : Cursor) : Span :=
  match c.rest with
  | t :: _ => t.span
  | [] => ⟨c.finish, c.finish⟩

/-- The star that stands alone: any record, or an open bound. -/
def isStar : Symbol → Bool
  | .wildcard pattern => pattern == Query.matchAllName
  | _ => false

/-- Whether a clause can begin with the token when no connective stands before it. -/
def startsClause : Symbol → Bool
  | .field _ | .openParen | .logical .not _ => true
  | s => isStar s

def literal? : Symbol → Option Literal
  | .value s => some (.ofWord s)
  | .quoted s | .field s | .wildcard s => some (.text s)
  | _ => none

/-- Reads a bound of a range up to the next token that is none. -/
def rangeBound (tokens : List Token) : Option Literal × List Token :=
  match tokens with
  | t :: rest =>
    if isStar t.symbol then (none, rest)
    else match literal? t.symbol with
      | some value => (some value, rest)
      | none => (none, tokens)
  | [] => (none, [])

def rangeBody (name : String) (c : Cursor) : Outcome Query :=
  let (min, rest) := rangeBound c.rest
  match rest with
  | ⟨.rangeTo _, _⟩ :: rest =>
    let (max, rest) := rangeBound rest
    match rest with
    | ⟨.closeBracket, _⟩ :: rest => .ok (.range name min max true) { c with rest }
    | _ => .fail ⟨.openRange name, some (nextSpan { c with rest })⟩ { c with rest }
  | _ => .fail ⟨.missingTo name, some (nextSpan { c with rest })⟩ { c with rest }

def operatorClause (name : String) (value : Literal) : Operator → Query
  | .eq => .field name value (some .eq)
  | .ne => .field name value (some .ne)
  | .order comparison => .comparison name comparison value

def fieldValue (name : String) (fieldSpan : Span) (c : Cursor) : Outcome Query :=
  match c.rest with
  | ⟨.operator op, span⟩ :: rest =>
    match rest with
    | t :: after =>
      match literal? t.symbol with
      | some value => .ok (operatorClause name value op) { c with rest := after }
      | none => .fail ⟨.missingOperand op name, some span⟩ { c with rest }
    | [] => .fail ⟨.missingOperand op name, some span⟩ { c with rest }
  | ⟨.openBracket, _⟩ :: rest => rangeBody name { c with rest }
  | ⟨.wildcard pattern, _⟩ :: rest => .ok (.wildcard name pattern) { c with rest }
  | t :: rest =>
    match literal? t.symbol with
    | some value => .ok (.field name value none) { c with rest }
    | none => .fail ⟨.missingValue name, some fieldSpan⟩ c
  | [] => .fail ⟨.missingValue name, some fieldSpan⟩ c

def fieldClause (name : String) (fieldSpan : Span) (c : Cursor) : Outcome Query :=
  match c.rest with
  | ⟨.colon, _⟩ :: rest => fieldValue name fieldSpan { c with rest }
  | _ => .fail ⟨.missingColon name, some fieldSpan⟩ c

/-- Counts a clause; `read` goes on unless there are too many. -/
def counted (span : Span) (c : Cursor) (read : Cursor → Outcome Query) : Outcome Query :=
  let c := { c with clauses := c.clauses + 1 }
  if maxClauses < c.clauses then .fail ⟨.tooManyClauses, some span⟩ c else read c

/-- Reads further operands of a conjunction after `left`. -/
def conjunctionFrom (operand : Cursor → Outcome Query) (left : Query) (c : Cursor) :
    Outcome Query :=
  let next (c' : Cursor) : Outcome Query :=
    match operand c' with
    | .fail why after => .fail why after
    | .ok right after =>
      if _h : after.rest.length < c.rest.length then
        conjunctionFrom operand (.and left right) after
      else .ok (.and left right) after
  match c.rest with
  | ⟨.logical .and _, span⟩ :: rest =>
    if rest.isEmpty then .fail ⟨.missingExpression .and, some span⟩ { c with rest }
    else next { c with rest }
  | t :: _ => if startsClause t.symbol then next c else .ok left c
  | [] => .ok left c
termination_by c.rest.length

def conjunction (operand : Cursor → Outcome Query) (c : Cursor) : Outcome Query :=
  match operand c with
  | .fail why after => .fail why after
  | .ok left after => conjunctionFrom operand left after

def disjunctionFrom (operand : Cursor → Outcome Query) (left : Query) (c : Cursor) :
    Outcome Query :=
  match c.rest with
  | ⟨.logical .or _, span⟩ :: rest =>
    if rest.isEmpty then .fail ⟨.missingExpression .or, some span⟩ { c with rest }
    else
      match conjunction operand { c with rest } with
      | .fail why after => .fail why after
      | .ok right after =>
        if _h : after.rest.length < c.rest.length then
          disjunctionFrom operand (.or left right) after
        else .ok (.or left right) after
  | _ => .ok left c
termination_by c.rest.length

def disjunction (operand : Cursor → Outcome Query) (c : Cursor) : Outcome Query :=
  match conjunction operand c with
  | .fail why after => .fail why after
  | .ok left after => disjunctionFrom operand left after

/-- Whether nothing that NOT could negate comes next. -/
def isDangling : List Token → Bool
  | [] => true
  | ⟨.closeParen, _⟩ :: _ => true
  | ⟨.logical connective _, _⟩ :: _ => connective != .not
  | _ => false

/-- Reads one clause, negation or group. What is nested in it is read by `inner`, which is missing
at the greatest depth. -/
def clauseWith (inner : Option (Cursor → Outcome Query)) (c : Cursor) : Outcome Query :=
  match c.rest with
  | ⟨.logical .not _, span⟩ :: rest =>
    if isDangling rest then .fail ⟨.missingExpression .not, some span⟩ { c with rest }
    else match inner with
      | none => .fail ⟨.tooDeep, some span⟩ { c with rest }
      | some clause => (clause { c with rest }).map .not
  | ⟨.openParen, _⟩ :: rest =>
    let c := { c with rest }
    match inner with
    | none => .fail ⟨.tooDeep, some (nextSpan c)⟩ c
    | some clause =>
      match disjunction clause c with
      | .fail why after => .fail why after
      | .ok body after =>
        match after.rest with
        | ⟨.closeParen, _⟩ :: rest => .ok (.group body) { after with rest }
        | _ => .fail ⟨.openGroup, some (nextSpan after)⟩ after
  | ⟨.field name, span⟩ :: rest =>
    counted span c fun c => fieldClause name span { c with rest }
  | t :: rest =>
    if isStar t.symbol then counted t.span c fun c => .ok .matchAll { c with rest }
    else .fail ⟨.unexpected t, some t.span⟩ c
  | [] => .fail ⟨.endOfQuery, some (nextSpan c)⟩ c

/-- Reads one clause, negation or group, in which at most `levels` more may nest. -/
def clause : Nat → Cursor → Outcome Query
  | 0 => clauseWith none
  | levels + 1 => clauseWith (some (clause levels))

def expression (c : Cursor) : Outcome Query :=
  disjunction (clause (maxDepth - 1)) c

/-- Passes over tokens up to AND, OR or a closing parenthesis. -/
def resume : List Token → List Token
  | [] => []
  | t :: rest =>
    match t.symbol with
    | .closeParen | .logical .and _ | .logical .or _ => t :: rest
    | _ => resume rest

/-- The parts read so far, and the faults in reverse. -/
structure Progress where
  root : Option Query
  faults : List Diagnostic

def Progress.add (p : Progress) (q : Query) : Progress :=
  { p with root := some (match p.root with | some before => .and before q | none => q) }

def Progress.report (p : Progress) (d : Diagnostic) : Progress :=
  { p with faults := d :: p.faults }

/-- Takes the token at which an expression stopped: a connective, or one that has no place. -/
def takeStop (p : Progress) (c : Cursor) : Progress × Cursor :=
  match c.rest with
  | [] => (p, c)
  | t :: rest =>
    let after := { c with rest }
    match t.symbol with
    | .logical .not _ => (p.report ⟨.unexpected t, some t.span⟩, after)
    | .logical connective _ =>
      if rest.isEmpty then (p.report ⟨.missingExpression connective, some t.span⟩, after)
      else (p, after)
    | _ => (p.report ⟨.unexpected t, some t.span⟩, after)

/-- Reads expression after expression until no token is left, or there are too many clauses. -/
def parts (p : Progress) (c : Cursor) : Progress :=
  if c.rest.isEmpty then p
  else
    match expression c with
    | .fail why after =>
      if why.fault = .tooManyClauses then p.report why
      else
        let (p, after) := takeStop (p.report why) { after with rest := resume after.rest }
        if _h : after.rest.length < c.rest.length then parts p after else p
    | .ok q after =>
      let (p, after) := takeStop (p.add q) after
      if _h : after.rest.length < c.rest.length then parts p after else p
termination_by c.rest.length

end Parser

/-- The query that the tokens spell, or all faults in the order in which they were met. -/
def Query.ofTokens (tokens : Tokens) : Except (List Diagnostic) Query :=
  let p := Parser.parts ⟨none, []⟩ ⟨tokens.items, tokens.finish, 0⟩
  match p.faults, p.root with
  | [], some q => .ok q
  | [], none => .error [⟨.emptyQuery, none⟩]
  | faults, _ => .error faults.reverse

end NetQuery
