import NetQuery.Address.DottedQuad
import NetQuery.Glob.Pattern
import NetQuery.Regex.Escape
import NetQuery.Text.Ascii
import NetQuery.Text.Blank
import NetQuery.Text.DecimalDigit

namespace NetQuery

open Number

variable [Regex.Library]

inductive AddressPattern where
  /-- One address, in lower case. -/
  | exact (text : String)
  /-- The addresses whose first `bits` bits are those of `network`. -/
  | block (network bits : Nat)
  | wildcard (pattern : List Char)
  /-- A text that is no pattern and matches nothing. -/
  | invalid (text : String)
  deriving DecidableEq, Repr

namespace AddressPattern

def width : Nat := 32

def maxWord : Nat := 4294967295

/-- How many addresses share their first `bits` bits. -/
def blockSize (bits : Nat) : Nat := 2 ^ (width - bits)

def mask (bits : Nat) : Nat := (2 ^ bits - 1) * blockSize bits

def splitAtSlash? (cs : List Char) : Option (List Char × List Char) :=
  let before := cs.takeWhile (· != '/')
  match cs.dropWhile (· != '/') with
  | _ :: after => some (before, after)
  | [] => none

def block? (address bits : List Char) : Option AddressPattern := do
  let network ← Address.quad? address
  let bits ← (readUnsigned? maxWord bits).filter (· ≤ width)
  some (block (network / blockSize bits * blockSize bits) bits)

def hasWildcard (cs : List Char) : Bool :=
  cs.any fun c => c == '*' || c == '?'

/-- What an octet of a pattern stands for; a star alone for one to three digits. -/
def octetExpr (pattern : List Char) : Regex.Expr :=
  if pattern == ['*'] then .repeated 1 (some 3) true (.ofSet false Regex.digitChars)
  else .inTurn ((Glob.ofText pattern).map (Glob.signExpr Regex.digitChars false))

def addressChars : CharSet := .ofText "2e 30-3a 41-46 61-66"

/-- The pattern of a text with wildcards: octet by octet if there are four. -/
def wildcardExpr (pattern : List Char) : Regex.Expr :=
  let parts := Address.pointParts pattern
  if parts.length = 4 then Glob.wholeText ((parts.map octetExpr).intersperse (.char '.'))
  else Glob.wholeText ((Glob.ofText pattern).map (Glob.signExpr addressChars false))

/-- The pattern of a text, without the blanks around it. Wildcards must not make it too large. -/
def ofText (text : String) : AddressPattern :=
  let cs := Text.trimBlanks text.toList
  let s := String.ofList cs
  if hasWildcard cs then
    if Regex.Library.builds (wildcardExpr cs) then wildcard cs else invalid s
  else
    match splitAtSlash? cs with
    | some (address, bits) => (block? address bits).getD (invalid s)
    | none =>
      if Address.isQuad s || Address.looksLikeV6 s then exact (Text.lowerAscii s) else invalid s

def isInvalid : AddressPattern → Bool
  | invalid _ => true
  | _ => false

def octetStyle : GlobStyle := ⟨Text.isDecimalDigit, (· == ·)⟩

def addressStyle : GlobStyle := ⟨fun c => Address.isHexDigit c || c == '.' || c == ':', (· == ·)⟩

/-- A star for a whole octet stands for one to three digits. -/
def octetMatches (pattern octet : List Char) : Bool :=
  if pattern == ['*'] then
    1 ≤ octet.length && octet.length ≤ 3 && octet.all Text.isDecimalDigit
  else Glob.covers octetStyle (Glob.ofText pattern) octet

/-- Patterns of four parts match part by part. -/
def wildcardMatches (pattern address : List Char) : Bool :=
  let parts := Address.pointParts pattern
  if parts.length = 4 then
    let octets := Address.pointParts address
    octets.length == 4 && (parts.zip octets).all fun (p, o) => octetMatches p o
  else Glob.covers addressStyle (Glob.ofText pattern) address

def matchesText (p : AddressPattern) (address : String) : Bool :=
  let cs := Text.trimBlanks address.toList
  match p with
  | exact text => Text.eqIgnoringCase (String.ofList cs) text
  | block network bits =>
    (Address.quad? cs).any fun n => n / blockSize bits * blockSize bits == network
  | wildcard pattern => wildcardMatches pattern cs
  | invalid _ => false

example : (block? "10.0.0.0".toList "8".toList).any (·.matchesText "10.255.0.1") := by decide
example : (wildcard "192.168.*.?".toList).matchesText "192.168.77.1" := by decide
example : block? "10.0.0.0".toList "33".toList = none := by decide

end AddressPattern

end NetQuery
