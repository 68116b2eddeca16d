import NetQuery.Text.Ascii
import NetQuery.Text.Blank
import NetQuery.Text.Folding
import NetQuery.Text.WordChar

namespace NetQuery.Spelling

structure Words where
  truthy : String
  falsy : String
  deriving DecidableEq, Repr

/-- The words that are read as truth values. -/
def truthWords : List String := ["true", "false", "yes", "no", "on", "off", "1", "0"]

def isTruthy (word : String) : Bool :=
  ["true", "yes", "on", "1"].contains (Text.lowerAscii word)

def dropFolded? : List Char → List Char → Option (List Char)
  | [], cs => some cs
  | _ :: _, [] => none
  | w :: word, c :: cs => if Text.sameLetter w c then dropFolded? word cs else none

def dropExact? : List Char → List Char → Option (List Char)
  | [], cs => some cs
  | _ :: _, [] => none
  | w :: word, c :: cs => if w == c then dropExact? word cs else none

/-- A condition found at the start of a text. -/
structure Assignment where
  field : String
  truth : Bool
  /-- How many characters it takes. -/
  length : Nat
  deriving DecidableEq, Repr

/-- The truth word at the start of `cs` that ends at a word boundary. -/
def truthWord? (cs : List Char) : Option (List Char) :=
  truthWords.findSome? fun word =>
    match dropFolded? word.toList cs with
    | some rest =>
      let written := cs.take word.length
      if Text.isWordBoundary written.getLast? rest.head? then some written else none
    | none => none

def afterField? (cs : List Char) : Option (List Char × List Char) :=
  match Text.dropBlanks cs with
  | sign :: rest =>
    if sign == ':' || sign == '=' then
      let rest := Text.dropBlanks rest
      (truthWord? rest).map fun word => (word, rest.drop word.length)
    else none
  | [] => none

/-- The condition at the start of `cs` on one of the fields; `before` is the character before. -/
def assignment? (fields : List String) (before : Option Char) (cs : List Char) :
    Option Assignment :=
  if Text.isWordBoundary before cs.head? then
    fields.findSome? fun field =>
      (dropExact? field.toList cs).bind fun rest =>
        (afterField? rest).map fun (word, tail) =>
          ⟨field, isTruthy (String.ofList word), cs.length - tail.length⟩
  else none

def Assignment.written (words : Words) (a : Assignment) : List Char :=
  a.field.toList ++ ':' :: (if a.truth then words.truthy else words.falsy).toList

/-- Respells every condition, from the left. The first `skip` characters are already dealt with. -/
def assignFrom (fields : List String) (words : Words) (before : Option Char) :
    Nat → List Char → List Char
  | _, [] => []
  | skip + 1, c :: rest => assignFrom fields words (some c) skip rest
  | 0, c :: rest =>
    match assignment? fields before (c :: rest) with
    | some a => a.written words ++ assignFrom fields words (some c) (a.length - 1) rest
    | none => c :: assignFrom fields words (some c) 0 rest

def assign (fields : List String) (words : Words) (cs : List Char) : List Char :=
  assignFrom fields words none 0 cs

end NetQuery.Spelling
