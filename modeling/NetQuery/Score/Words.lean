import NetQuery.Text.Blank
import NetQuery.Text.Quotes

namespace NetQuery.Score

/-- The word that the characters, in reverse, make up, unless there are none. -/
def closeWord (reversed : List Char) : List (List Char) :=
  if reversed.isEmpty then [] else [reversed.reverse]

/-- How deep brackets nest after a character outside quotes; a closing one too many is nothing. -/
def bracketDepth (depth : Nat) (c : Char) : Nat :=
  if c == '[' then depth + 1 else if c == ']' then depth - 1 else depth

/-- The words of `cs` after the beginning of one, in reverse. -/
def wordsFrom (state : Text.QuoteState) (depth : Nat) (reversed : List Char) :
    List Char → List (List Char)
  | [] => closeWord reversed
  | c :: rest =>
    if state.isOutside && depth == 0 && Text.isBlank c then
      closeWord reversed ++ wordsFrom state depth [] rest
    else
      let depth := if state.isOutside then bracketDepth depth c else depth
      wordsFrom (state.next c) depth (c :: reversed) rest

def splitWords (cs : List Char) : List (List Char) :=
  wordsFrom .outside 0 [] cs

example : (splitWords "a:[1 TO 2] 'b c'".toList).map String.ofList = ["a:[1 TO 2]", "'b c'"] := by
  decide

end NetQuery.Score
