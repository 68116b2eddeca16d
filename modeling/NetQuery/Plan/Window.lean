import NetQuery.Query.Printer
import NetQuery.Query.TimeLiteral

namespace NetQuery

/-- Seconds from `first` to `last`; a missing end is open. -/
structure Window where
  first : Option Int
  last : Option Int
  deriving DecidableEq, Repr

def Window.contains (w : Window) (t : Int) : Bool :=
  w.first.all (· ≤ t) && w.last.all (t ≤ ·)

/-- What the meaning of a query depends on besides its tree. -/
structure Setting where
  entity : Entity
  /-- The second from which relative times count back. -/
  now : Int
  /-- Half the width of the window of an equality; the usual one when missing. -/
  tolerance : Option Int
  deriving DecidableEq, Repr

namespace Window

/-- Half the usual width of the window of an equality. -/
def usualTolerance : Int := 60

/-- Half the width of the window of an equality, never negative. -/
def margin (setting : Setting) : Int :=
  max 0 (min (setting.tolerance.getD usualTolerance) Epoch.maxSeconds)

def around (setting : Setting) (t : Int) : Window :=
  ⟨some (max (t - margin setting) 0), some (min (t + margin setting) Epoch.maxSeconds)⟩

/-- The window of a comparison; a strict one begins or ends a second further. -/
def beyond (t : Int) : Comparison → Window
  | .gt => ⟨some (t + 1), none⟩
  | .ge => ⟨some t, none⟩
  | .lt => ⟨none, some (t - 1)⟩
  | .le => ⟨none, some t⟩

def boundTime (now : Int) : Option Literal → Except TimeError (Option Int)
  | none => .ok none
  | some literal => (literal.time now).map some

def ofRange (setting : Setting) (least greatest : Option Literal) (inclusive : Bool) :
    Except TimeError Window := do
  let first ← boundTime setting.now least
  let last ← boundTime setting.now greatest
  let step := if inclusive then 0 else 1
  .ok ⟨first.map (· + step), last.map (· - step)⟩

/-- The window of a clause on a time field; compound queries and wildcards have none. -/
def ofClause? (setting : Setting) : Query → Option (Except TimeError Window)
  | .field _ value _ => some ((value.time setting.now).map (around setting))
  | .range _ min max inclusive => some (ofRange setting min max inclusive)
  | .comparison _ op value => some ((value.time setting.now).map fun t => beyond t op)
  | _ => none

def endText (t : Option Int) : String :=
  (t.map Number.intText).getD Query.matchAllName

end Window

end NetQuery
