import NetQuery.Comparison
import NetQuery.Number.Integer

namespace NetQuery

/-- The bytes from `start` up to `stop`. -/
structure Span where
  start : Nat
  stop : Nat
  deriving DecidableEq, Repr

def byteLength (cs : List Char) : Nat :=
  (cs.map Char.utf8Size).sum

inductive Connective where
  | and
  | or
  | not
  deriving DecidableEq, Repr

def Connective.name : Connective → String
  | and => "AND"
  | or => "OR"
  | not => "NOT"

inductive Operator where
  | eq
  | ne
  | order (comparison : Comparison)
  deriving DecidableEq, Repr

def Operator.symbol : Operator → String
  | eq => "="
  | ne => "!="
  | order c => c.symbol

/-- What a token says. Keywords keep the spelling in which they stand in the text. -/
inductive Symbol where
  /-- A word that starts with a letter or an underscore: a field, or a value. -/
  | field (name : String)
  /-- A word that starts with a digit, a dot or a minus sign. -/
  | value (text : String)
  /-- The content of a quoted text, without quotes and escapes. -/
  | quoted (text : String)
  /-- A word with a star or a question mark in it. -/
  | wildcard (pattern : String)
  | operator (op : Operator)
  | logical (connective : Connective) (spelling : String)
  | rangeTo (spelling : String)
  | openParen
  | closeParen
  | openBracket
  | closeBracket
  | colon
  deriving DecidableEq, Repr

namespace Symbol

/-- The text that a message shows for the token. -/
def text : Symbol → String
  | field s | value s | quoted s | wildcard s | logical _ s | rangeTo s => s
  | operator op => op.symbol
  | openParen => "("
  | closeParen => ")"
  | openBracket => "["
  | closeBracket => "]"
  | colon => ":"

def kind : Symbol → String
  | field _ => "FIELD"
  | value _ => "VALUE"
  | quoted _ => "QUOTED_VALUE"
  | wildcard _ => "WILDCARD"
  | operator _ => "OPERATOR"
  | logical .. => "LOGICAL"
  | rangeTo _ => "TO"
  | openParen => "LPAREN"
  | closeParen => "RPAREN"
  | openBracket => "LBRACKET"
  | closeBracket => "RBRACKET"
  | colon => "COLON"

end Symbol

structure Token where
  symbol : Symbol
  span : Span
  deriving DecidableEq, Repr

structure Tokens where
  items : List Token
  finish : Nat
  deriving DecidableEq, Repr

/-- What no token can start with, or an open quote. Either ends the reading. -/
inductive LexError where
  | unterminated (position : Nat)
  | unexpected (char : Char) (position : Nat)
  deriving DecidableEq, Repr

namespace LexError

def position : LexError → Nat
  | unterminated p => p
  | unexpected _ p => p

def message : LexError → String
  | unterminated p => "Unterminated quoted string starting at position " ++ Number.natText p
  | unexpected c p =>
    "Unexpected character '" ++ c.toString ++ "' at position " ++ Number.natText p

end LexError

@[simp] theorem byteLength_nil : byteLength [] = 0 := rfl

@[simp] theorem byteLength_cons (c : Char) (cs : List Char) :
    byteLength (c :: cs) = c.utf8Size + byteLength cs := rfl

@[simp] theorem byteLength_append (cs ds : List Char) :
    byteLength (cs ++ ds) = byteLength cs + byteLength ds := by
  simp [byteLength]

end NetQuery
