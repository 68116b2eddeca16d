import NetQuery.Arithmetic

namespace NetQuery.Text

def isQuote (c : Char) : Bool :=
  c == '"' || c == '\''

/-- Where a scan stands. -/
inductive QuoteState where
  | outside
  | inside (quote : Char)
  /-- Just after a backslash in a quoted text. -/
  | escaped (quote : Char)
  deriving DecidableEq, Repr

namespace QuoteState

def next : QuoteState → Char → QuoteState
  | outside, c => if isQuote c then inside c else outside
  | inside quote, c =>
    if c == '\\' then escaped quote else if c == quote then outside else inside quote
  | escaped quote, _ => inside quote

def isOutside : QuoteState → Bool
  | outside => true
  | _ => false

def run (state : QuoteState) (cs : List Char) : QuoteState :=
  cs.foldl next state

/-- Whether a character in this state belongs to a quoted text; the quotes do. -/
def covers (state : QuoteState) (c : Char) : Bool :=
  !state.isOutside || isQuote c

@[simp] theorem run_nil (state : QuoteState) : state.run [] = state := rfl

@[simp] theorem run_cons (state : QuoteState) (c : Char) (cs : List Char) :
    state.run (c :: cs) = (state.next c).run cs := rfl

theorem eq_outside {state : QuoteState} (h : state.isOutside = true) : state = outside := by
  cases state with
  | outside => rfl
  | inside quote => cases h
  | escaped quote => cases h

theorem run_append (state : QuoteState) (cs ds : List Char) :
    state.run (cs ++ ds) = (state.run cs).run ds :=
  List.foldl_append

end QuoteState

/-- The characters with an underscore for each one that belongs to a quoted text. -/
def maskFrom (state : QuoteState) : List Char → List Char
  | [] => []
  | c :: rest => (if state.covers c then '_' else c) :: maskFrom (state.next c) rest

def maskQuoted (cs : List Char) : List Char :=
  maskFrom .outside cs

/-- A stretch of text, quoted with its quotes or free of quotes. -/
structure Segment where
  quoted : Bool
  chars : List Char
  deriving DecidableEq, Repr

/-- The stretch that the characters, in reverse, make up, unless there are none. -/
def closeSegment (quoted : Bool) (reversed : List Char) : List Segment :=
  if reversed.isEmpty then [] else [⟨quoted, reversed.reverse⟩]

/-- The stretches of the text after those in `reversed`, which the current one starts with. -/
def segmentsFrom (state : QuoteState) (reversed : List Char) : List Char → List Segment
  | [] => closeSegment (!state.isOutside) reversed
  | c :: rest =>
    let after := state.next c
    match state.isOutside, after.isOutside with
    | true, false => closeSegment false reversed ++ segmentsFrom after [c] rest
    | false, true => closeSegment true (c :: reversed) ++ segmentsFrom after [] rest
    | _, _ => segmentsFrom after (c :: reversed) rest

/-- The stretches of a text. A quoted text without its closing quote runs to the end. -/
def segments (cs : List Char) : List Segment :=
  segmentsFrom .outside [] cs

example : String.ofList (maskQuoted "a:\"(\\\"\" b".toList) = "a:_____ b" := by decide
example : (segments "a 'b' c".toList).map (fun s => String.ofList s.chars) =
    ["a ", "'b'", " c"] := by
  decide

end NetQuery.Text
