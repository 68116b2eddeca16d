import NetQuery.Number.Integer

namespace NetQuery.Address

open Number

def maxOctet : Nat := 255

/-- An octet of one to three digits; zeros in front are allowed. -/
def octet? (cs : List Char) : Option Nat :=
  if cs.length ≤ 3 then (readDigits? cs).filter (· ≤ maxOctet) else none

def pointParts (cs : List Char) : List (List Char) :=
  cs.splitOnP (· == '.')

/-- The number of four octets, the first one highest. -/
def ofOctets (octets : List Nat) : Nat :=
  octets.foldl (fun n octet => n * 256 + octet) 0

def quad? (cs : List Char) : Option Nat :=
  let parts := pointParts cs
  if parts.length = 4 then (parts.mapM octet?).map ofOctets else none

def isQuad (s : String) : Bool :=
  (quad? s.toList).isSome

def isHexDigit (c : Char) : Bool :=
  c.isDigit || ('a' ≤ c && c ≤ 'f') || ('A' ≤ c && c ≤ 'F')

/-- The look of an IPv6 address: three to eight groups of at most four hexadecimal digits, with
colons between them. -/
def looksLikeV6 (s : String) : Bool :=
  let groups := s.toList.splitOnP (· == ':')
  3 ≤ groups.length && groups.length ≤ 8 &&
    groups.all fun g => g.length ≤ 4 && g.all isHexDigit

example : quad? "010.0.0.255".toList = some 167772415 := by decide
example : ¬ isQuad "1.2.3.256" ∧ ¬ isQuad "1.2.3" ∧ looksLikeV6 "::" := by decide

end NetQuery.Address
