import NetQuery.Library
import NetQuery.Session

namespace NetQuery.CommandLine

variable [Regex.Library]

structure Options where
  config : Option String
  entity : String
  records : Option String
  debug : Bool
  query : Option String
  deriving DecidableEq, Repr

def Options.usual : Options := ⟨none, "alarms", none, false, none⟩

/-- Reads options; what is no option is the query, which is given once. -/
def Options.read? (o : Options) : List String → Option Options
  | [] => some o
  | "--config" :: path :: rest | "-c" :: path :: rest => { o with config := some path }.read? rest
  | "--entity" :: name :: rest | "-e" :: name :: rest => { o with entity := name }.read? rest
  | "--records" :: path :: rest | "-r" :: path :: rest => { o with records := some path }.read? rest
  | "--debug" :: rest | "-d" :: rest => { o with debug := true }.read? rest
  | "--" :: [query] => if o.query.isNone then some { o with query := some query } else none
  | arg :: rest =>
    if arg.toList.head? == some '-' || o.query.isSome then none
    else { o with query := some arg }.read? rest

/-- The texts of the files that a run was given, and its other options. -/
structure Inputs where
  config : Option String
  entity : String
  records : Option String
  debug : Bool

inductive StartError where
  | config (error : ConfigError)
  | entity (error : UnknownEntity)
  | records
  deriving DecidableEq, Repr

def StartError.message : StartError → String
  | config error => error.message
  | entity error => error.message
  | records => "records file must hold a JSON array"

def readRecords (entity : Entity) (text : String) : Except StartError (List Record) :=
  match Json.read? text with
  | some (.arr items) => .ok (items.map fun item => ⟨entity, item⟩)
  | _ => .error .records

/-- Reads the inputs: the settings first, then the entity, then the records. -/
def start (inputs : Inputs) : Except StartError (Desk × Entity) := do
  let config ← match inputs.config with
    | some text => (Config.ofText "" text).mapError .config
    | none => .ok .usual
  let entity ← match Entity.ofName? inputs.entity with
    | some entity => .ok entity
    | none => .error (.entity ⟨inputs.entity⟩)
  let records ← match inputs.records with
    | some text => (readRecords entity text).map some
    | none => .ok none
  .ok (⟨{ config with debug := config.debug || inputs.debug }, records⟩, entity)

structure Result where
  text : String
  succeeded : Bool

def runQuery (inputs : Inputs) (now : Int) (query : String) : Result :=
  match start inputs with
  | .error _ => ⟨"", false⟩
  | .ok (desk, entity) =>
    let answer := desk.answerQuery entity now query
    ⟨answer.text, answer.isValid⟩

def runLines (inputs : Inputs) (now : Int) (lines : List String) : Result :=
  match start inputs with
  | .error _ => ⟨"", false⟩
  | .ok (desk, entity) => ⟨Session.banner ++ Session.run desk now entity lines, true⟩

end NetQuery.CommandLine
