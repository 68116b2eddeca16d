import NetQuery.Calendar.Instant
import NetQuery.Text.Blank

namespace NetQuery.Calendar

open Number

abbrev Scan := Option (Nat × List Char)

def fixedDigits? (width : Nat) (cs : List Char) : Scan :=
  let digits := cs.take width
  if digits.length = width ∧ digits.all Char.isDigit then
    some (digitsFrom 0 digits, cs.drop width)
  else none

/-- From one digit up to `width`. -/
def upToDigits? (width : Nat) (cs : List Char) : Scan :=
  let digits := (cs.take width).takeWhile Char.isDigit
  if digits.isEmpty then none else some (digitsFrom 0 digits, cs.drop digits.length)

def expect? (c : Char) : List Char → Option (List Char)
  | d :: rest => if d == c then some rest else none
  | [] => none

/-- Drops a point and digits, at least one; without a point nothing. -/
def dropFraction? : List Char → Option (List Char)
  | '.' :: rest =>
    if (rest.takeWhile Char.isDigit).isEmpty then none else some (rest.dropWhile Char.isDigit)
  | cs => some cs

/-- A time of day as read. The second 60 counts as 59. -/
structure Clock where
  hour : Nat
  minute : Nat
  second : Nat
  deriving DecidableEq, Repr

def Clock.isValid (c : Clock) : Bool :=
  c.hour ≤ 23 && c.minute ≤ 59 && c.second ≤ 60

def instant? (date : Date) (clock : Clock) : Option Int :=
  if date.isValid && clock.isValid then
    some (Instant.ofDate date clock.hour clock.minute (min clock.second 59))
  else none

/-- The seconds that a place is ahead of UTC: `Z`, or a sign, hours and minutes. -/
def offset? (cs : List Char) : Option Int :=
  let signed (rest : List Char) : Option Int := do
    let (hours, rest) ← fixedDigits? 2 rest
    let (minutes, rest) ← fixedDigits? 2 (← expect? ':' rest)
    if rest.isEmpty ∧ hours ≤ 23 ∧ minutes ≤ 59 then some (hours * 3600 + minutes * 60 : Nat)
    else none
  match cs with
  | ['Z'] | ['z'] => some 0
  | '+' :: rest => signed rest
  | '-' :: rest => (signed rest).map (-·)
  | '−' :: rest => (signed rest).map (-·)
  | _ => none

def dropTimeSign? : List Char → Option (List Char)
  | c :: rest => if c == 'T' || c == 't' || c == ' ' then some rest else none
  | [] => none

def strict? (cs : List Char) : Option Int := do
  let (year, cs) ← fixedDigits? 4 cs
  let (month, cs) ← fixedDigits? 2 (← expect? '-' cs)
  let (day, cs) ← fixedDigits? 2 (← expect? '-' cs)
  let (hour, cs) ← fixedDigits? 2 (← dropTimeSign? cs)
  let (minute, cs) ← fixedDigits? 2 (← expect? ':' cs)
  let (second, cs) ← fixedDigits? 2 (← expect? ':' cs)
  let cs ← dropFraction? cs
  let t ← instant? ⟨year, month, day⟩ ⟨hour, minute, second⟩
  let ahead ← offset? cs
  some (t - ahead)

def looseNumber? (width : Nat) (cs : List Char) : Scan :=
  upToDigits? width (Text.dropBlanks cs)

/-- A year after blanks: four digits at most, or a sign and any number of digits. -/
def looseYear? (cs : List Char) : Option (Int × List Char) :=
  match Text.dropBlanks cs with
  | '-' :: rest => (upToDigits? rest.length rest).map fun (n, rest) => (-(n : Int), rest)
  | '+' :: rest => (upToDigits? rest.length rest).map fun (n, rest) => ((n : Int), rest)
  | cs => (upToDigits? 4 cs).map fun (n, rest) => ((n : Int), rest)

def looseDate? (cs : List Char) : Option (Date × List Char) := do
  let (year, cs) ← looseYear? cs
  let (month, cs) ← looseNumber? 2 (← expect? '-' cs)
  let (day, cs) ← looseNumber? 2 (← expect? '-' cs)
  some (⟨year, month, day⟩, cs)

def looseClock? (cs : List Char) : Option (Clock × List Char) := do
  let (hour, cs) ← looseNumber? 2 cs
  let (minute, cs) ← looseNumber? 2 (← expect? ':' cs)
  let (second, cs) ← looseNumber? 2 (← expect? ':' cs)
  some (⟨hour, minute, second⟩, cs)

/-- A date and a time with a T between them, and perhaps a fraction of a second. -/
def looseMoment? (cs : List Char) : Option Int := do
  let (date, cs) ← looseDate? cs
  let (clock, cs) ← looseClock? (← expect? 'T' cs)
  let cs ← dropFraction? cs
  if cs.isEmpty then instant? date clock else none

/-- A date and a time with blanks between them, or nothing. -/
def blankMoment? (cs : List Char) : Option Int := do
  let (date, cs) ← looseDate? cs
  let (clock, cs) ← looseClock? cs
  if cs.isEmpty then instant? date clock else none

/-- A date alone means its midnight. -/
def looseDay? (cs : List Char) : Option Int := do
  let (date, cs) ← looseDate? cs
  if cs.isEmpty then instant? date ⟨0, 0, 0⟩ else none

def read? (cs : List Char) : Option Int :=
  strict? cs <|> looseMoment? cs <|> blankMoment? cs <|> looseDay? cs

example : read? "2024-01-15T14:35:42+05:30".toList = some 1705309542 := by decide
example : read? "2024-1-5".toList = some 1704412800 := by decide
example : read? "-0001-01-01".toList = some (-62198755200) := by decide
example : read? "2023-02-29".toList = none := by decide

end NetQuery.Calendar
