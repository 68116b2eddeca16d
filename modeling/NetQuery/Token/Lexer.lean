import NetQuery.Text.Ascii
import NetQuery.Text.Blank
import NetQuery.Text.Quotes
import NetQuery.Token.Basic

namespace NetQuery

namespace Lexer

def startsWord (c : Char) : Bool :=
  c.isAlphanum || c == '_' || c == '*' || c == '?' || c == '.' || c == '-'

/-- What a word may hold; the slash keeps an address block in one word. -/
def inWord (c : Char) : Bool :=
  startsWord c || c == '/'

/-- A lexeme as read: what it says, its characters, and the rest after it. -/
structure Scanned where
  symbol : Symbol
  lexeme : List Char
  rest : List Char

/-- Content, characters and rest of a quoted text after its opening quote. A backslash takes the
next character as it is. -/
structure Quoted where
  content : List Char
  lexeme : List Char
  rest : List Char

/-- Reads up to the closing quote; `none` without one. -/
def scanQuoted? (quote : Char) : List Char → Option Quoted
  | [] => none
  | '\\' :: c :: rest =>
    (scanQuoted? quote rest).map fun q => ⟨c :: q.content, '\\' :: c :: q.lexeme, q.rest⟩
  | c :: rest =>
    if c == quote then some ⟨[], [c], rest⟩
    else if c == '\\' then none
    else (scanQuoted? quote rest).map fun q => ⟨c :: q.content, c :: q.lexeme, q.rest⟩

/-- The keyword that a word spells in any case, else a field. -/
def keywordOrField (word : String) : Symbol :=
  match Text.upperAscii word with
  | "AND" => .logical .and word
  | "OR" => .logical .or word
  | "NOT" => .logical .not word
  | "TO" => .rangeTo word
  | _ => .field word

/-- What a word says: wildcards first, then keywords and fields, which start with a letter or an
underscore, then values. -/
def wordSymbol (word : List Char) : Symbol :=
  let text := String.ofList word
  if word.any fun c => c == '*' || c == '?' then .wildcard text
  else if word.head?.any fun c => c.isAlpha || c == '_' then keywordOrField text
  else .value text

/-- A comparison may have an equals sign after it. -/
def scanOrder (c : Char) (strict loose : Comparison) : List Char → Scanned
  | '=' :: rest => ⟨.operator (.order loose), [c, '='], rest⟩
  | rest => ⟨.operator (.order strict), [c], rest⟩

/-- The first lexeme of a text that starts with `c`, no blank. `position` is where it stands. -/
def scanSymbol (position : Nat) (c : Char) (rest : List Char) : Except LexError Scanned :=
  match c with
  | '(' => .ok ⟨.openParen, [c], rest⟩
  | ')' => .ok ⟨.closeParen, [c], rest⟩
  | '[' => .ok ⟨.openBracket, [c], rest⟩
  | ']' => .ok ⟨.closeBracket, [c], rest⟩
  | ':' => .ok ⟨.colon, [c], rest⟩
  | '=' => .ok ⟨.operator .eq, [c], rest⟩
  | '>' => .ok (scanOrder c .gt .ge rest)
  | '<' => .ok (scanOrder c .lt .le rest)
  | '!' =>
    match rest with
    | '=' :: rest => .ok ⟨.operator .ne, [c, '='], rest⟩
    | _ => .error (.unexpected c position)
  | _ =>
    if Text.isQuote c then
      match scanQuoted? c rest with
      | some q => .ok ⟨.quoted (String.ofList q.content), c :: q.lexeme, q.rest⟩
      | none => .error (.unterminated position)
    else if startsWord c then
      let word := c :: rest.takeWhile inWord
      .ok ⟨wordSymbol word, word, rest.dropWhile inWord⟩
    else .error (.unexpected c position)

theorem scanQuoted?_split {quote : Char} {cs : List Char} {q : Quoted}
    (h : scanQuoted? quote cs = some q) : q.lexeme ++ q.rest = cs := by
  fun_induction scanQuoted? quote cs generalizing q with
  | case1 => simp at h
  | case2 c rest ih =>
    obtain ⟨r, hr, rfl⟩ := Option.map_eq_some_iff.1 h
    simp [ih hr]
  | case3 c rest _ hc => cases h; rfl
  | case4 c rest _ _ hb => simp at h
  | case5 c rest _ _ _ ih =>
    obtain ⟨r, hr, rfl⟩ := Option.map_eq_some_iff.1 h
    simp [ih hr]

theorem scanOrder_split (c : Char) (strict loose : Comparison) (rest : List Char) :
    (scanOrder c strict loose rest).lexeme ++ (scanOrder c strict loose rest).rest = c :: rest := by
  unfold scanOrder
  split <;> rfl

theorem scanSymbol_split {position : Nat} {c : Char} {rest : List Char} {s : Scanned}
    (h : scanSymbol position c rest = .ok s) : s.lexeme ++ s.rest = c :: rest := by
  unfold scanSymbol at h
  split at h
  case h_7 => cases h; exact scanOrder_split ..
  case h_8 => cases h; exact scanOrder_split ..
  case h_9 => split at h <;> cases h; rfl
  case h_10 =>
    split at h
    · split at h
      · next q hq => cases h; simp [scanQuoted?_split hq]
      · cases h
    · split at h
      · cases h; simp
      · cases h
  all_goals cases h; rfl

theorem scanSymbol_lexeme_ne_nil {position : Nat} {c : Char} {rest : List Char} {s : Scanned}
    (h : scanSymbol position c rest = .ok s) : s.lexeme ≠ [] := by
  unfold scanSymbol at h
  split at h
  case h_7 => cases h; unfold scanOrder; split <;> simp
  case h_8 => cases h; unfold scanOrder; split <;> simp
  case h_9 => split at h <;> cases h; simp
  case h_10 =>
    split at h
    · split at h <;> cases h; simp
    · split at h <;> cases h; simp
  all_goals cases h; simp

theorem scanSymbol_shorter {position : Nat} {c : Char} {rest : List Char} {s : Scanned}
    (h : scanSymbol position c rest = .ok s) : s.rest.length ≤ rest.length := by
  have hl := congrArg List.length (scanSymbol_split h)
  have hp := List.length_pos_iff.mpr (scanSymbol_lexeme_ne_nil h)
  simp at hl
  omega

/-- The tokens of `cs`, which stand `position` bytes after the start of the text. -/
def tokensFrom (position : Nat) (cs : List Char) : Except LexError Tokens :=
  let start := position + byteLength (cs.takeWhile Text.isBlank)
  match _hd : cs.dropWhile Text.isBlank with
  | [] => .ok ⟨[], start⟩
  | c :: rest =>
    match _hs : scanSymbol start c rest with
    | .error e => .error e
    | .ok s =>
      let stop := start + byteLength s.lexeme
      match tokensFrom stop s.rest with
      | .error e => .error e
      | .ok tokens => .ok { tokens with items := ⟨s.symbol, ⟨start, stop⟩⟩ :: tokens.items }
termination_by cs.length
decreasing_by
  have h₁ := scanSymbol_shorter _hs
  have h₂ := Text.length_dropBlanks_le cs
  unfold Text.dropBlanks at h₂
  simp [_hd] at h₂
  omega

end Lexer

/-- The tokens of a query text, or the first error. -/
def tokenize (text : String) : Except LexError Tokens :=
  Lexer.tokensFrom 0 text.toList

example : (tokenize "a:1").toOption = some
    ⟨[⟨.field "a", ⟨0, 1⟩⟩, ⟨.colon, ⟨1, 2⟩⟩, ⟨.value "1", ⟨2, 3⟩⟩], 3⟩ := by decide +kernel

end NetQuery
