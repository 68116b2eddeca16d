import NetQuery.Text.Blank
import NetQuery.Spelling.Assignment

namespace NetQuery.Spelling

/-- What a word in raw text is made of, ASCII only. -/
def inBareWord (c : Char) : Bool :=
  c.isAlphanum || c == '_' || c == '.' || c == '-' || c == '*' || c == '?'

/-- A word, or a character between words. -/
inductive Piece where
  | word (chars : List Char)
  | other (char : Char)
  deriving DecidableEq, Repr

def pieces : List Char → List Piece
  | [] => []
  | c :: rest =>
    if inBareWord c then
      match pieces rest with
      | .word w :: ps => .word (c :: w) :: ps
      | ps => .word [c] :: ps
    else .other c :: pieces rest

def operatorNext : List Piece → Bool
  | .other c :: _ => c == ':' || c == '=' || c == '!' || c == '<' || c == '>'
  | _ => false

/-- After these characters a word is a value. -/
def opensValue (c : Char) : Bool :=
  c == ':' || c == '=' || c == '<' || c == '>' || c == '!'

/-- Gives each boolean field that stands alone the value true. `before` is the last character that
is no blank, if it is not of a word. -/
def expandFrom (fields : List String) (truthy : String) (before : Option Char) :
    List Piece → List Char
  | [] => []
  | .other c :: rest =>
    c :: expandFrom fields truthy (if Text.isBlank c then before else some c) rest
  | .word w :: rest =>
    let alone := !operatorNext rest && !before.any opensValue
    let value :=
      if alone && fields.contains (String.ofList w) then ':' :: truthy.toList else []
    w ++ value ++ expandFrom fields truthy none rest

def expand (fields : List String) (truthy : String) (cs : List Char) : List Char :=
  expandFrom fields truthy none (pieces cs)

def mentions (fields : List String) (cs : List Char) : Bool :=
  (pieces cs).any fun
    | .word w => fields.contains (String.ofList w)
    | .other _ => false

def Piece.source : Piece → List Char
  | .word w => w
  | .other c => [c]

theorem flatMap_pieces (cs : List Char) : (pieces cs).flatMap Piece.source = cs := by
  induction cs with
  | nil => rfl
  | cons c rest ih =>
    unfold pieces
    split
    · split
      · next w ps h => rw [h] at ih; simpa [Piece.source] using ih
      · simpa [Piece.source] using ih
    · simpa [Piece.source] using ih

end NetQuery.Spelling
