import NetQuery.Entity
import NetQuery.Spelling.Bare
import NetQuery.Text.Quotes

namespace NetQuery.Spelling

/-- The two ways of writing truth values for the backend. -/
inductive Encoding where
  | numeric
  | literal
  deriving DecidableEq, Repr

def Encoding.name : Encoding → String
  | numeric => "numeric"
  | literal => "literal"

def Encoding.ofName? (s : String) : Option Encoding :=
  [numeric, literal].find? (·.name == s)

def Encoding.words : Encoding → Words
  | numeric => ⟨"1", "0"⟩
  | literal => ⟨"true", "false"⟩

/-- Words to fall back on when the backend refuses the first ones, in order. -/
def alternativeWords : List Words :=
  [⟨"true", "false"⟩, ⟨"True", "False"⟩, ⟨"yes", "no"⟩, ⟨"on", "off"⟩]

/-- Respells the conditions of a stretch without quotes, then the fields that stand alone. -/
def respellPlain (fields : List String) (words : Words) (cs : List Char) : List Char :=
  expand fields words.truthy (assign fields words cs)

/-- The text in the given words. Without boolean fields there is nothing to respell. -/
def respell (entity : Entity) (words : Words) (text : String) : String :=
  match entity.namesOfKind .boolean with
  | [] => text
  | fields =>
    String.ofList <| (Text.segments text.toList).flatMap fun s =>
      if s.quoted then s.chars else respellPlain fields words s.chars

/-- Whether the text names a boolean field of the entity outside quotes. -/
def needsEncoding (entity : Entity) (text : String) : Bool :=
  let fields := entity.namesOfKind .boolean
  (Text.segments text.toList).any fun s => !s.quoted && mentions fields s.chars

def encode (encoding : Encoding) (entity : Entity) (text : String) : String :=
  respell entity encoding.words text

/-- The text in each of the alternative words, each result once. -/
def alternatives (entity : Entity) (text : String) : List String :=
  (alternativeWords.map fun words => respell entity words text).foldl
    (fun seen s => if seen.contains s then seen else seen ++ [s]) []

example : encode .numeric .flows "blocked = TRUE AND blocked" = "blocked:1 AND blocked:1" := by
  decide +kernel
example : encode .literal .flows "domain:blocked 'blocked'" = "domain:blocked 'blocked'" := by
  decide +kernel

end NetQuery.Spelling
