import NetQuery.Calendar.Epoch
import NetQuery.Json.Reader
import NetQuery.Number.Layout
import NetQuery.Spelling.Encoding

namespace NetQuery

open Number

structure Config where
  /-- Queries more complex than this are refused. -/
  maxComplexity : Binary64
  /-- Half the width in seconds of the window of an equality on a time. -/
  tolerance : Int
  debug : Bool
  encoding : Spelling.Encoding
  /-- Whether boolean conditions are respelled before a query is read. -/
  encodesBooleans : Bool
  deriving DecidableEq, Repr

inductive ConfigError where
  | notFound (path : String)
  | unreadable (path : String)
  | malformed (path : String)
  | complexity (value : Binary64)
  | tolerance (value : Int)
  deriving DecidableEq, Repr

def ConfigError.message : ConfigError → String
  | notFound path => "Config file does not exist: " ++ path
  | unreadable path => "Cannot read config file " ++ path
  | malformed path => "Cannot parse config file " ++ path
  | complexity value =>
    "Invalid config value: max_complexity must be a positive number, got " ++ plainText value
  | tolerance value =>
    "Invalid config value: time_tolerance_secs must be between 0 and " ++
      intText Epoch.maxSeconds ++ ", got " ++ intText value

namespace Config

def usual : Config := ⟨.ofInt 10, 60, false, .numeric, true⟩

/-- Checks the values, the complexity first. -/
def check (c : Config) : Except ConfigError Unit :=
  if !(c.maxComplexity.isFinite && Binary64.zero.lt c.maxComplexity) then
    .error (.complexity c.maxComplexity)
  else if !(0 ≤ c.tolerance && c.tolerance ≤ Epoch.maxSeconds) then
    .error (.tolerance c.tolerance)
  else .ok ()

def asNumber? : Json → Option Binary64
  | .int n => some (.ofInt n)
  | .float x => some x
  | _ => none

def asInteger? : Json → Option Int
  | .int n => if n ≤ maxInt64 then some n else none
  | _ => none

def asBool? : Json → Option Bool
  | .bool b => some b
  | _ => none

/-- An encoding by its name, or as an object with its name as the only key and null as its value. -/
def asEncoding? : Json → Option Spelling.Encoding
  | .str s => Spelling.Encoding.ofName? s
  | .obj [(s, .null)] => Spelling.Encoding.ofName? s
  | _ => none

def keys : List String :=
  ["max_complexity", "time_tolerance_secs", "debug", "boolean_encoding", "translate_booleans"]

def set? (c : Config) (key : String) (value : Json) : Option Config :=
  match key with
  | "max_complexity" => (asNumber? value).map fun x => { c with maxComplexity := x }
  | "time_tolerance_secs" => (asInteger? value).map fun n => { c with tolerance := n }
  | "debug" => (asBool? value).map fun b => { c with debug := b }
  | "boolean_encoding" => (asEncoding? value).map fun e => { c with encoding := e }
  | "translate_booleans" => (asBool? value).map fun b => { c with encodesBooleans := b }
  | _ => none

/-- Settings as an object, each key at most once, or as a list in the order of the keys. Those that
are missing are the usual ones. -/
def ofJson? : Json → Option Config
  | .obj members =>
    let names := members.map (·.1)
    if names.eraseDups.length = names.length then
      members.foldlM (fun c m => c.set? m.1 m.2) usual
    else none
  | .arr items =>
    if items.length ≤ keys.length then
      (keys.zip items).foldlM (fun c m => c.set? m.1 m.2) usual
    else none
  | _ => none

def ofText (path text : String) : Except ConfigError Config := do
  match (Json.readRaw? Json.nestingLimit text).bind ofJson? with
  | none => .error (.malformed path)
  | some c =>
    c.check
    .ok c

def toJson (c : Config) : Json :=
  .obj [("max_complexity", .float c.maxComplexity), ("time_tolerance_secs", .int c.tolerance),
    ("debug", .bool c.debug), ("boolean_encoding", .str c.encoding.name),
    ("translate_booleans", .bool c.encodesBooleans)]

end Config

end NetQuery
