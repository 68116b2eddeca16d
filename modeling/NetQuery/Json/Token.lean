import NetQuery.Json.Number

namespace NetQuery.Json

inductive Token where
  | openArray
  | closeArray
  | openObject
  | closeObject
  | comma
  | colon
  | scalar (value : Json)

def hexDigit? (c : Char) : Option Nat :=
  if c.isDigit then some (c.toNat - '0'.toNat)
  else if 'a' ≤ c && c ≤ 'f' then some (c.toNat - 'a'.toNat + 10)
  else if 'A' ≤ c && c ≤ 'F' then some (c.toNat - 'A'.toNat + 10)
  else none

def hexUnit? (a b c d : Char) : Option Nat := do
  let a ← hexDigit? a
  let b ← hexDigit? b
  let c ← hexDigit? c
  let d ← hexDigit? d
  some (((a * 16 + b) * 16 + c) * 16 + d)

def escaped? : Char → Option Char
  | '"' => some '"'
  | '\\' => some '\\'
  | '/' => some '/'
  | 'b' => some '\x08'
  | 'f' => some '\x0c'
  | 'n' => some '\n'
  | 'r' => some '\r'
  | 't' => some '\t'
  | _ => none

def isHighSurrogate (n : Nat) : Bool := 0xD800 ≤ n && n ≤ 0xDBFF

def isLowSurrogate (n : Nat) : Bool := 0xDC00 ≤ n && n ≤ 0xDFFF

/-- Reads a string after its opening quote. Surrogates come in pairs, and control characters only
as escapes. -/
def scanString (acc : List Char) : List Char → Option (String × List Char)
  | '"' :: rest => some (String.ofList acc.reverse, rest)
  | '\\' :: 'u' :: a :: b :: c :: d :: '\\' :: 'u' :: e :: f :: g :: h :: rest =>
    match hexUnit? a b c d with
    | none => none
    | some n =>
      if isHighSurrogate n then
        match hexUnit? e f g h with
        | none => none
        | some m =>
          if isLowSurrogate m then
            scanString (Char.ofNat (0x10000 + (n - 0xD800) * 0x400 + (m - 0xDC00)) :: acc) rest
          else none
      else if isLowSurrogate n then none
      else scanString (Char.ofNat n :: acc) ('\\' :: 'u' :: e :: f :: g :: h :: rest)
  | '\\' :: 'u' :: a :: b :: c :: d :: rest =>
    match hexUnit? a b c d with
    | none => none
    | some n =>
      if isHighSurrogate n || isLowSurrogate n then none
      else scanString (Char.ofNat n :: acc) rest
  | '\\' :: e :: rest =>
    match escaped? e with
    | none => none
    | some c => scanString (c :: acc) rest
  | c :: rest => if c.toNat < 0x20 then none else scanString (c :: acc) rest
  | [] => none

def scanDigits? (cs : List Char) : Option (List Char × List Char) :=
  let digits := cs.takeWhile Char.isDigit
  if digits.isEmpty then none else some (digits, cs.dropWhile Char.isDigit)

/-- Reads a number after its sign. A zero in front stands alone. -/
def scanNumber? (negative : Bool) (cs : List Char) : Option (Json × List Char) := do
  let (whole, cs) ← scanDigits? cs
  if whole.head? = some '0' && whole.length ≠ 1 then none
  else
    let (fraction, cs) ← match cs with
      | '.' :: rest => scanDigits? rest
      | _ => some ([], cs)
    let (exponent, cs) ← match cs with
      | e :: rest =>
        if e == 'e' || e == 'E' then
          match rest with
          | '-' :: rest => (scanDigits? rest).map fun (ds, r) => (some (true, ds), r)
          | '+' :: rest => (scanDigits? rest).map fun (ds, r) => (some (false, ds), r)
          | _ => (scanDigits? rest).map fun (ds, r) => (some (false, ds), r)
        else some (none, cs)
      | [] => some (none, cs)
    let value ← NumberText.value? ⟨negative, whole, fraction, exponent⟩
    some (value, cs)

def isJsonBlank (c : Char) : Bool :=
  c == ' ' || c == '\n' || c == '\t' || c == '\r'

/-- The first token of a text that starts with none of the blanks, and the rest. -/
def scanToken? : List Char → Option (Token × List Char)
  | '[' :: rest => some (.openArray, rest)
  | ']' :: rest => some (.closeArray, rest)
  | '\x7b' :: rest => some (.openObject, rest)
  | '\x7d' :: rest => some (.closeObject, rest)
  | ',' :: rest => some (.comma, rest)
  | ':' :: rest => some (.colon, rest)
  | '"' :: rest => (scanString [] rest).map fun (s, r) => (.scalar (.str s), r)
  | 't' :: 'r' :: 'u' :: 'e' :: rest => some (.scalar (.bool true), rest)
  | 'f' :: 'a' :: 'l' :: 's' :: 'e' :: rest => some (.scalar (.bool false), rest)
  | 'n' :: 'u' :: 'l' :: 'l' :: rest => some (.scalar .null, rest)
  | '-' :: rest => (scanNumber? true rest).map fun (v, r) => (.scalar v, r)
  | cs => (scanNumber? false cs).map fun (v, r) => (.scalar v, r)

/-- Tokens of a text, with as many steps as it has characters. -/
def scanTokens (acc : List Token) : Nat → List Char → Option (List Token)
  | 0, cs => if cs.all isJsonBlank then some acc.reverse else none
  | steps + 1, cs =>
    match cs.dropWhile isJsonBlank with
    | [] => some acc.reverse
    | cs =>
      match scanToken? cs with
      | some (token, rest) => scanTokens (token :: acc) steps rest
      | none => none

def tokens? (text : String) : Option (List Token) :=
  scanTokens [] text.length text.toList

end NetQuery.Json
