import NetQuery.Address.Numeric
import NetQuery.Address.Pattern
import NetQuery.Glob.Pattern
import NetQuery.Plan.Window
import NetQuery.Text.Lowercase

namespace NetQuery

open Number

abbrev Predicate := Record → Bool

/-- Why a clause has no meaning. -/
inductive ClauseError where
  | time (error : TimeError)
  /-- The text with wildcards is too large a pattern. -/
  | tooLarge (pattern : String)
  deriving DecidableEq, Repr

def ClauseError.message : ClauseError → String
  | time error => error.message
  | tooLarge pattern =>
    "Invalid pattern '" ++ pattern ++ "': Compiled regex exceeds size limit of " ++
      toString Regex.maxSize ++ " bytes."

def Binary64.order? (a b : Binary64) : Option Ordering :=
  match a.position?, b.position? with
  | some x, some y => some (compare x y)
  | _, _ => none

def textOrder (a b : String) : Ordering :=
  if a < b then .lt else if a = b then .eq else .gt

namespace Match

/-- The number of a record's value; truth values have none here. -/
def number? : Json → Option Binary64
  | .bool _ => none
  | v => v.number?

def truthEquals (b : Bool) (text : String) : Bool :=
  if ["true", "1", "yes", "on"].contains text then b
  else if ["false", "0", "no", "off"].contains text then !b
  else false

/-- Equality of a record's value and a literal: of numbers where both are, else of texts. -/
def equals (actual : Json) (expected : Literal) : Bool :=
  match actual with
  | .bool b => truthEquals b (Text.lowerAscii expected.toText)
  | _ =>
    match number? actual, expected.number? with
    | some a, some e => a.eq e
    | _, _ => actual.plainText?.any (Text.eqIgnoringCase · expected.toText)

/-- The order of a record's value and a literal by number where both are, else by text. -/
def plainOrder? (actual : Json) (expected : Literal) : Option Ordering :=
  match number? actual, expected.number? with
  | some a, some e => a.order? e
  | _, _ => actual.plainText?.map (textOrder · expected.toText)

def addressOrder? (actual : Json) (expected : Literal) : Option Ordering := do
  let a ← Address.ofText? (Text.trim (← actual.plainText?))
  let e ← Address.ofText? (Text.trim expected.toText)
  a.compare? e

/-- The order of a record's value and a literal on a field of the given kind. Levels go by rank and
addresses by their bits, and neither has an order with anything else. -/
def order? (kind : Option FieldKind) (actual : Json) (expected : Literal) : Option Ordering :=
  match kind with
  | some .severity =>
    match severityRank? expected.toText with
    | some e => ((actual.plainText?.bind severityRank?).map fun a => compare a e)
    | none => plainOrder? actual expected
  | some .ip => addressOrder? actual expected
  | _ => plainOrder? actual expected

end Match

def Comparison.admits : Comparison → Ordering → Bool
  | gt, o => o == .gt
  | ge, o => o != .lt
  | lt, o => o == .lt
  | le, o => o != .gt

namespace Predicate

def inWindow (name : String) (w : Window) : Predicate :=
  fun r => ((r.get? name).bind Epoch.ofRecord?).any w.contains

def onAddress (name : String) (pattern : AddressPattern) : Predicate :=
  fun r => (r.text? name).any pattern.matchesText

/-- The text of the field has the literal in it, in any case. -/
def hasText (name : String) (value : Literal) : Predicate :=
  fun r => (r.text? name).any fun text =>
    Text.contains (Text.lowercase text) (Text.lowercase value.toText)

def equalTo (name : String) (value : Literal) : Predicate :=
  fun r => (r.get? name).any fun actual => Match.equals actual value

/-- The value of the field lies beyond the bound, or on it where that is allowed. -/
def beyondBound (kind : Option FieldKind) (side : Ordering) (inclusive : Bool) (actual : Json)
    (bound : Option Literal) : Bool :=
  bound.all fun bound =>
    match Match.order? kind actual bound with
    | some .eq => inclusive
    | some o => o == side
    | none => false

def between (name : String) (kind : Option FieldKind) (min max : Option Literal)
    (inclusive : Bool) : Predicate :=
  fun r => (r.get? name).any fun actual =>
    beyondBound kind .gt inclusive actual min && beyondBound kind .lt inclusive actual max

def comparing (name : String) (kind : Option FieldKind) (op : Comparison) (value : Literal) :
    Predicate :=
  fun r => ((r.get? name).bind fun actual => Match.order? kind actual value).any op.admits

/-- The predicate, or its complement for an inequality. -/
def signed (relation : Option Relation) (p : Predicate) : Predicate :=
  if relation = some .ne then fun r => !p r else p

def onText (name pattern : String) : Predicate :=
  fun r => (r.text? name).any (Glob.matchesText pattern)

end Predicate

namespace Query

open Predicate

variable [Regex.Library]

def fieldPredicate (setting : Setting) (name : String) (value : Literal)
    (relation : Option Relation) : Except ClauseError Predicate :=
  if name == matchAllName then .ok fun _ => true
  else if relation = some .approx then .ok (hasText name value)
  else
    match setting.entity.kind? name with
    | some .ip => .ok (signed relation (onAddress name (.ofText value.toText)))
    | some .timestamp =>
      ((value.time setting.now).mapError .time).map fun t =>
        signed relation (inWindow name (Window.around setting t))
    | _ => .ok (signed relation (equalTo name value))

def wildcardPredicate (kind : Option FieldKind) (name pattern : String) :
    Except ClauseError Predicate :=
  if kind = some .ip then .ok (onAddress name (.ofText pattern))
  else if Glob.isPattern pattern then .ok (onText name pattern)
  else .error (.tooLarge pattern)

/-- The meaning of a query; a literal on a time field may tell no time, and a pattern may be too
large. Of several errors the first one counts. -/
def predicate (setting : Setting) : Query → Except ClauseError Predicate
  | field name value relation => fieldPredicate setting name value relation
  | wildcard name pattern => wildcardPredicate (setting.entity.kind? name) name pattern
  | range name min max inclusive =>
    let kind := setting.entity.kind? name
    if kind = some .timestamp then
      ((Window.ofRange setting min max inclusive).mapError .time).map (inWindow name)
    else .ok (between name kind min max inclusive)
  | comparison name op value =>
    let kind := setting.entity.kind? name
    if kind = some .timestamp then
      ((value.time setting.now).mapError .time).map fun t => inWindow name (Window.beyond t op)
    else .ok (comparing name kind op value)
  | group body => body.predicate setting
  | and left right => do
    let p ← left.predicate setting
    let q ← right.predicate setting
    .ok fun r => p r && q r
  | or left right => do
    let p ← left.predicate setting
    let q ← right.predicate setting
    .ok fun r => p r || q r
  | not operand => do
    let p ← operand.predicate setting
    .ok fun r => !p r

end Query

end NetQuery
