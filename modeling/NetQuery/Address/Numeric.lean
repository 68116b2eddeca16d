import NetQuery.Address.DottedQuad
import NetQuery.Json.Token

namespace NetQuery

/-- An address as a number of 32 or 128 bits. -/
inductive Address where
  | v4 (bits : Nat)
  | v6 (bits : Nat)
  deriving DecidableEq, Repr

namespace Address

open Number

/-- A decimal octet without zeros in front, and the rest. -/
def strictOctet? (cs : List Char) : Option (Nat × List Char) :=
  let digits := cs.takeWhile Char.isDigit
  if digits.length ≤ 3 && !(digits.head? == some '0' && 1 < digits.length) then
    ((readDigits? digits).filter (· ≤ maxOctet)).map fun n => (n, cs.drop digits.length)
  else none

def after? (sign : Char) (cs : List Char) : Option (List Char) :=
  match cs with
  | c :: rest => if c == sign then some rest else none
  | [] => none

def leadingQuad? (cs : List Char) : Option (Nat × List Char) := do
  let (a, cs) ← strictOctet? cs
  let (b, cs) ← strictOctet? (← after? '.' cs)
  let (c, cs) ← strictOctet? (← after? '.' cs)
  let (d, cs) ← strictOctet? (← after? '.' cs)
  some (ofOctets [a, b, c, d], cs)

def hexGroup? (cs : List Char) : Option (Nat × List Char) :=
  let digits := cs.takeWhile isHexDigit
  if digits.isEmpty || 4 < digits.length then none
  else
    (digits.foldlM (fun n c => (Json.hexDigit? c).map (16 * n + ·)) 0).map fun n =>
      (n, cs.drop digits.length)

/-- Groups of 16 bits with colons between them, as many as there are up to `room`. A dotted quad
takes the place of the last two and ends them. -/
structure Groups where
  values : List Nat
  endsInQuad : Bool
  rest : List Char

def readGroups (first : Bool) : Nat → List Char → Groups
  | 0, cs => ⟨[], false, cs⟩
  | room + 1, cs =>
    let start? := if first then some cs else after? ':' cs
    let quad? := if 0 < room then start?.bind leadingQuad? else none
    match quad? with
    | some (n, rest) => ⟨[n / 65536, n % 65536], true, rest⟩
    | none =>
      match start?.bind hexGroup? with
      | some (n, rest) =>
        let more := readGroups false room rest
        { more with values := n :: more.values }
      | none => ⟨[], false, cs⟩

def ofGroups (groups : List Nat) : Nat :=
  groups.foldl (fun n g => n * 65536 + g) 0

/-- An IPv6 address: eight groups, or fewer around a double colon that stands for zeros. -/
def v6? (cs : List Char) : Option Nat :=
  let head := readGroups true 8 cs
  if head.values.length = 8 then if head.rest.isEmpty then some (ofGroups head.values) else none
  else if head.endsInQuad then none
  else
    match head.rest with
    | ':' :: ':' :: rest =>
      let tail := readGroups true (7 - head.values.length) rest
      if tail.rest.isEmpty then
        let zeros := 8 - head.values.length - tail.values.length
        some (ofGroups (head.values ++ List.replicate zeros 0 ++ tail.values))
      else none
    | _ => none

def ofText? (s : String) : Option Address :=
  match leadingQuad? s.toList with
  | some (n, []) => some (v4 n)
  | some _ => none
  | none => (v6? s.toList).map v6

/-- Addresses of one family compare by their bits; those of two families do not compare. -/
def compare? : Address → Address → Option Ordering
  | v4 a, v4 b => some (compare a b)
  | v6 a, v6 b => some (compare a b)
  | _, _ => none

example : ofText? "::ffff:1.2.3.4" = some (v6 281470698652420) := by decide
example : ofText? "01.2.3.4" = none ∧ ofText? "1::2::3" = none := by decide
example : ofText? "::" = some (v6 0) ∧ ofText? "1:2:3:4:5:6:7::" ≠ none := by decide

end Address

end NetQuery
