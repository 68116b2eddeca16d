import NetQuery.Json.Basic
import NetQuery.Number.Decimal
import NetQuery.Score.Words
import NetQuery.Text.Ascii
import NetQuery.Token.Basic

namespace NetQuery.Score

open Number

inductive ConditionKind where
  | eq
  | ne
  | order (comparison : Comparison)
  | oneOf
  | contains
  | startsWith
  | endsWith
  | range
  | regex
  deriving DecidableEq, Repr

def ConditionKind.name : ConditionKind → String
  | eq => "eq"
  | ne => "ne"
  | order .gt => "gt"
  | order .ge => "gte"
  | order .lt => "lt"
  | order .le => "lte"
  | oneOf => "in"
  | contains => "contains"
  | startsWith => "starts_with"
  | endsWith => "ends_with"
  | range => "range"
  | regex => "regex"

def ConditionKind.weight : ConditionKind → Nat
  | eq | ne => 10
  | order _ => 12
  | oneOf => 15
  | contains | startsWith | endsWith => 20
  | range => 25
  | regex => 30

def connectiveWeight : Nat := 5

/-- One condition; without a field it is free text. -/
structure Component where
  field : Option String
  kind : ConditionKind
  value : Json
  connectives : List Connective
  /-- The condition as written, without connectives. -/
  text : String
  deriving Repr

def Component.weight (c : Component) : Nat :=
  c.kind.weight + connectiveWeight * c.connectives.length

def Component.toText (c : Component) : String :=
  String.join (c.connectives.map fun w => w.name ++ " ") ++ c.text

def connectiveOf? (word : List Char) : Option Connective :=
  [Connective.and, .or, .not].find? (·.name.toList == word.map Char.toUpper)

/-- A word as a value: a truth value, a whole number, a finite number, else text. -/
def scalar (cs : List Char) : Json :=
  let text := String.ofList (Text.trimBlanks cs)
  if Text.eqIgnoringCase text "true" then .bool true
  else if Text.eqIgnoringCase text "false" then .bool false
  else
    match readInteger? text.toList with
    | some n => .int n
    | none =>
      match (readBinary64? text).filter Binary64.isFinite with
      | some x => .float x
      | none => .str text

def unescape : List Char → List Char
  | [] => []
  | '\\' :: c :: rest => c :: unescape rest
  | '\\' :: [] => []
  | c :: rest => c :: unescape rest

/-- The content of a text that begins and ends with the same quote. -/
def unquote? (cs : List Char) : Option (List Char) :=
  match cs with
  | quote :: rest =>
    if Text.isQuote quote && rest.getLast? == some quote then some (unescape rest.dropLast)
    else none
  | [] => none

def between? (first last : Char) (cs : List Char) : Option (List Char) :=
  match cs with
  | c :: rest => if c == first && rest.getLast? == some last then some rest.dropLast else none
  | [] => none

/-- The characters that a pattern must escape to mean themselves. -/
def isPatternSign (c : Char) : Bool :=
  ['\\', '.', '+', '*', '?', '(', ')', '|', '[', ']', '\x7b', '\x7d', '^', '$', '#', '&', '-',
    '~'].contains c

/-- The pattern of a text with wildcards, for the whole text. -/
def globPattern (cs : List Char) : List Char :=
  let part (c : Char) : List Char :=
    if c == '*' then ['.', '*']
    else if c == '?' then ['.']
    else if isPatternSign c then ['\\', c]
    else [c]
  '^' :: cs.flatMap part ++ ['$']

def hasWildcard (cs : List Char) : Bool :=
  cs.any fun c => c == '*' || c == '?'

def splitAtEach (separator : Char) (cs : List Char) : List (List Char) :=
  cs.splitOnP (· == separator)

def blankWords (cs : List Char) : List (List Char) :=
  (cs.splitOnP Text.isBlank).filter (!·.isEmpty)

def joinWords (words : List (List Char)) : List Char :=
  List.intercalate [' '] words

def isTo (word : List Char) : Bool :=
  word.map Char.toUpper == ['T', 'O']

/-- The bounds around the first TO between brackets. -/
def rangeValue? (raw : List Char) : Option Json := do
  let inner ← between? '[' ']' raw
  let words := blankWords inner
  if words.any isTo then
    let min := joinWords (words.takeWhile (!isTo ·))
    let max := joinWords ((words.dropWhile (!isTo ·)).drop 1)
    some (.obj [("max", scalar max), ("min", scalar min)])
  else none

/-- The operators in the order in which they are tried. -/
def operators : List (List Char × ConditionKind) :=
  [(['>', '='], .order .ge), (['<', '='], .order .le), (['!', '='], .ne), (['>'], .order .gt),
    (['<'], .order .lt), (['='], .eq)]

def operator? (raw : List Char) : Option (ConditionKind × List Char) :=
  operators.findSome? fun (symbol, kind) =>
    if symbol.isPrefixOf raw then some (kind, raw.drop symbol.length) else none

/-- A value with wildcards: a plain text with a star at one end or both, else a pattern. -/
def wildcardValue (raw : List Char) : ConditionKind × Json :=
  let plain (cs : Option (List Char)) : Option Json :=
    (cs.filter fun cs => !cs.isEmpty && !hasWildcard cs).map fun cs => .str (String.ofList cs)
  let starFirst := raw.head? == some '*'
  let starLast := raw.getLast? == some '*'
  match plain (between? '*' '*' raw) with
  | some text => (.contains, text)
  | none =>
    match plain (if starLast then some raw.dropLast else none) with
    | some text => (.startsWith, text)
    | none =>
      match plain (if starFirst then some (raw.drop 1) else none) with
      | some text => (.endsWith, text)
      | none => (.regex, .str (String.ofList (globPattern raw)))

def classifyValue (raw : List Char) : ConditionKind × Json :=
  match rangeValue? raw with
  | some bounds => (.range, bounds)
  | none =>
    match operator? raw with
    | some (kind, rest) =>
      (kind, match unquote? rest with
        | some text => .str (String.ofList text)
        | none => scalar rest)
    | none =>
      match between? '/' '/' raw with
      | some pattern => (.regex, .str (String.ofList pattern))
      | none =>
        match unquote? raw with
        | some text => (.eq, .str (String.ofList text))
        | none =>
          if raw.contains ',' then
            let items := (splitAtEach ',' raw).map Text.trimBlanks |>.filter (!·.isEmpty)
            (.oneOf, .arr (items.map scalar))
          else if hasWildcard raw then wildcardValue raw
          else (.eq, scalar raw)

/-- What stands before and after the first colon outside quotes. A backslash does not keep a quote
from closing here. -/
def splitFieldFrom (quote : Option Char) : List Char → Option (List Char × List Char)
  | [] => none
  | c :: rest =>
    if quote.isNone && c == ':' then some ([], rest)
    else
      let quote := match quote with
        | some q => if c == q then none else some q
        | none => if Text.isQuote c then some c else none
      (splitFieldFrom quote rest).map fun (before, after) => (c :: before, after)

/-- The component of a word; a colon in front of everything makes no field. -/
def classify (word : List Char) (connectives : List Connective) : Component :=
  let text := String.ofList word
  match splitFieldFrom none word with
  | some (name@(_ :: _), raw) =>
    let (kind, value) := classifyValue raw
    ⟨some (String.ofList name), kind, value, connectives, text⟩
  | _ => ⟨none, .contains, .str (String.ofList ((unquote? word).getD word)), connectives, text⟩

/-- A word without grouping parentheses at its ends. A quoted text keeps those at its end. -/
def dropParentheses (word : List Char) : List Char :=
  let word := word.dropWhile (· == '(')
  if (unquote? word).isSome then word
  else (word.reverse.dropWhile (· == ')')).reverse

/-- The components read so far, in reverse; connectives that wait for the next one, in reverse; and
whether parentheses were dropped. -/
structure Reading where
  components : List Component
  pending : List Connective
  grouped : Bool

def Reading.add (r : Reading) (word : List Char) : Reading :=
  match connectiveOf? word with
  | some w => { r with pending := w :: r.pending }
  | none =>
    let bare := dropParentheses word
    let r := { r with grouped := r.grouped || bare.length != word.length }
    if bare.isEmpty then r
    else
      match connectiveOf? bare with
      | some w => { r with pending := w :: r.pending }
      | none =>
        { r with components := classify bare r.pending.reverse :: r.components, pending := [] }

def read (words : List (List Char)) : Reading :=
  words.foldl Reading.add ⟨[], [], false⟩

end NetQuery.Score
