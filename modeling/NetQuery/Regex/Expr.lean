import NetQuery.Character.Set

namespace NetQuery.Regex

/-- What is asked of a place in a text. Word characters are those of ASCII or of all scripts. -/
inductive Assertion where
  | textStart
  | textEnd
  | lineStart (crlf : Bool)
  | lineEnd (crlf : Bool)
  | boundary (unicode : Bool)
  | noBoundary (unicode : Bool)
  | wordStart (unicode : Bool)
  | wordEnd (unicode : Bool)
  | wordStartHalf (unicode : Bool)
  | wordEndHalf (unicode : Bool)
  deriving DecidableEq, Repr

inductive Expr where
  | empty
  | literal (text : List Char)
  /-- One character of a set. Sets that were written as sets of bytes are told apart. -/
  | set (bytes : Bool) (chars : CharSet)
  | assertion (a : Assertion)
  | times (least : Nat) (most : Option Nat) (greedy : Bool) (body : Expr)
  | capture (index : Nat) (body : Expr)
  | sequence (parts : List Expr)
  | choice (branches : List Expr)

namespace Expr

mutual

def same : Expr → Expr → Bool
  | empty, empty => true
  | literal s, literal t => s == t
  | set b s, set c t => b == c && s == t
  | assertion a, assertion b => a == b
  | times l m g e, times l' m' g' e' => l == l' && m == m' && g == g' && e.same e'
  | capture i e, capture j e' => i == j && e.same e'
  | sequence es, sequence es' => allSame es es'
  | choice es, choice es' => allSame es es'
  | _, _ => false

def allSame : List Expr → List Expr → Bool
  | [], [] => true
  | e :: es, e' :: es' => e.same e' && allSame es es'
  | _, _ => false

end

mutual

/-- Whether an expression matches, and only the empty text. -/
def isBlank : Expr → Bool
  | empty => true
  | literal text => text.isEmpty
  | set _ _ => false
  | assertion _ => true
  | times _ most _ body => most == some 0 || (most.isSome && body.isBlank)
  | capture _ body => body.isBlank
  | sequence parts => allBlank parts
  | choice branches => allBlank branches

def allBlank : List Expr → Bool
  | [] => true
  | e :: es => e.isBlank && allBlank es

end

def fail : Expr := set true .empty

def char (c : Char) : Expr := literal [c]

def ofSet (bytes : Bool) (chars : CharSet) : Expr :=
  if chars.isEmpty then fail
  else
    match chars.single? with
    | some c => char c
    | none => set bytes chars

/-- A repetition. What only matches the empty text need not be repeated. -/
def repeated (least : Nat) (most : Option Nat) (greedy : Bool) (body : Expr) : Expr :=
  let (least, most) :=
    if body.isBlank then (min least 1, some (min (most.getD 1) 1)) else (least, most)
  if most = some 0 then empty
  else if least = 1 && most = some 1 then body
  else times least most greedy body

def parts : Expr → List Expr
  | empty => []
  | sequence es => es
  | e => [e]

/-- Puts a part before others and joins literals. -/
def before : Expr → List Expr → List Expr
  | literal s, literal t :: es => literal (s ++ t) :: es
  | e, es => e :: es

def inTurn (es : List Expr) : Expr :=
  match (es.flatMap parts).foldr before [] with
  | [] => empty
  | [e] => e
  | es => sequence es

def branches : Expr → List Expr
  | choice es => es
  | e => [e]

def literal? : Expr → Option (List Char)
  | literal text => some text
  | _ => none

def onlyChar? : Expr → Option Char
  | literal [c] => some c
  | _ => none

def onlySet? : Expr → Option CharSet
  | set _ chars => some chars
  | _ => none

def onlySequence? : Expr → Option (List Expr)
  | sequence es => some es
  | _ => none

/-- A choice between single characters, or between sets, as a set. -/
def choiceAsSet? (es : List Expr) : Option Expr :=
  match es.mapM onlyChar? with
  | some cs => some (ofSet false (.ofRanges (cs.map fun c => (c.toNat, c.toNat))))
  | none => (es.mapM onlySet?).map fun sets => ofSet false (.unions sets)

/-- Alternatives, whatever they begin with. -/
def anyOf (es : List Expr) : Expr :=
  match es.flatMap branches with
  | [] => fail
  | [e] => e
  | es => (choiceAsSet? es).getD (choice es)

def commonStart : List Expr → List Expr → List Expr
  | e :: es, e' :: es' => if e.same e' then e :: commonStart es es' else []
  | _, _ => []

/-- Alternatives. What all of them begin with stands before the choice. -/
def alternatives (es : List Expr) : Expr :=
  match (es.flatMap branches).mapM onlySequence? with
  | some (first :: second :: rest) =>
    match (second :: rest).foldl commonStart first with
    | [] => anyOf es
    | start =>
      let ends := (first :: second :: rest).map fun parts => inTurn (parts.drop start.length)
      inTurn (start ++ [anyOf ends])
  | _ => anyOf es

example : (alternatives [char 'a', char 'b']).same (set false (.ofText "61-62")) := by
  decide

end Expr

end NetQuery.Regex
