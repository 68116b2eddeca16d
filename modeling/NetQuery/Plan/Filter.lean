import NetQuery.Plan.Basic

namespace NetQuery

variable [Regex.Library]

inductive Filter where
  | timeRange
  | address
  | severity
  | protocol
  deriving DecidableEq, Repr

inductive PlanError where
  | clause (error : ClauseError)
  | unsupported (filter : Filter) (text : String)
  deriving DecidableEq, Repr

namespace Filter

def all : List Filter := [timeRange, address, severity, protocol]

def name : Filter → String
  | timeRange => "time_range"
  | address => "ip_address"
  | severity => "severity"
  | protocol => "protocol"

def ofName? (s : String) : Option Filter :=
  all.find? (·.name == s)

end Filter

def PlanError.message : PlanError → String
  | clause error => error.message
  | unsupported filter text => "Filter '" ++ filter.name ++ "' cannot handle " ++ text

namespace Filter

def isEquality (relation : Option Relation) : Bool :=
  relation = none || relation = some .eq

def isEqualityOn (field : String) (entity : Entity) : Query → Bool
  | .field name _ relation => isEquality relation && name == field && entity.hasField field
  | _ => false

def accepts (filter : Filter) (entity : Entity) (q : Query) : Bool :=
  match filter, q with
  | timeRange, .field name _ relation => isEquality relation && entity.isOfKind name .timestamp
  | timeRange, .range name .. => entity.isOfKind name .timestamp
  | timeRange, .comparison name .. => entity.isOfKind name .timestamp
  | address, .field name _ relation => relation != some .approx && entity.isOfKind name .ip
  | address, .wildcard name _ => entity.isOfKind name .ip
  | severity, q => isEqualityOn "severity" entity q
  | protocol, q => isEqualityOn "protocol" entity q
  | _, _ => false

def windowStage (name : String) (w : Window) : Stage :=
  ⟨"time:" ++ name, Predicate.inWindow name w⟩

/-- Sets a parameter that there is a value for. -/
def setOptional (p : Plan) (key : String) (value : Option Json) : Plan :=
  match value with
  | some value => p.setParam key value
  | none => p

/-- The plan for a window on a field. Alarms take dates and flows seconds; the other entities have
no parameters for time, so their records are sifted. -/
def windowPlan (entity : Entity) (name : String) (w : Window) : Plan :=
  let plan := { Plan.empty with
    cacheKey := some ("time:" ++ name ++ ":" ++ Window.endText w.first ++ "-" ++
      Window.endText w.last) }
  match entity with
  | .alarms =>
    let date (t : Int) : Option Json := (Instant.iso? t).map .str
    let plan := setOptional plan "start_time" (w.first.bind date)
    { setOptional plan "end_time" (w.last.bind date) with complete := some true }
  | .flows =>
    let plan := setOptional plan "begin" (w.first.map .int)
    { setOptional plan "end" (w.last.map .int) with complete := some true }
  | .rules | .devices | .targetLists =>
    { plan.addStage (windowStage name w) with complete := some false }

def invalidAddressWarning (name text : String) : String :=
  "Invalid IP address or pattern '" ++ text ++ "' for field '" ++ name ++ "'"

/-- The plan for an address pattern on a field: the backend knows none, so records are sifted. -/
def addressPlan (name text : String) (negated : Bool) : Plan :=
  let pattern := AddressPattern.ofText text
  { params := .empty
    stages := some [⟨"ip:" ++ name, fun r => Predicate.onAddress name pattern r != negated⟩]
    complete := some false
    cacheKey := some ("ip:" ++ name ++ ":" ++ text)
    warnings := if pattern.isInvalid then [invalidAddressWarning name text] else [] }

/-- The plan that hands a value to the backend as it is. -/
def passPlan (key name : String) (value : Literal) : Plan :=
  { Plan.empty.setParam key value.toJson with
    complete := some true
    cacheKey := some (name ++ ":" ++ value.toText) }

def pass (filter : Filter) (key : String) (q : Query) : Except PlanError Plan :=
  match q with
  | .field name value relation =>
    if isEquality relation then .ok (passPlan key name value)
    else .error (.unsupported filter q.toText)
  | _ => .error (.unsupported filter q.toText)

def window (setting : Setting) (q : Query) : Except PlanError Window :=
  match Window.ofClause? setting q with
  | some (.ok w) => .ok w
  | some (.error e) => .error (.clause (.time e))
  | none => .error (.unsupported timeRange q.toText)

def plan (filter : Filter) (setting : Setting) (q : Query) : Except PlanError Plan :=
  match filter with
  | timeRange =>
    (window setting q).map (windowPlan setting.entity (q.fieldName?.getD ""))
  | address =>
    match q with
    | .field name value relation =>
      .ok (addressPlan name value.toText (relation == some .ne))
    | .wildcard name pattern => .ok (addressPlan name pattern false)
    | _ => .error (.unsupported address q.toText)
  | severity => pass severity "severity" q
  | protocol => pass protocol "protocol" q

end Filter

end NetQuery
