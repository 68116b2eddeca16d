import NetQuery.CommandLine
import Std.Time.DateTime.Timestamp

open NetQuery CommandLine

def currentSecond : IO Int := do
  return (← Std.Time.Timestamp.now).toSecondsSinceUnixEpoch.val

def complain (message : String) : IO UInt32 := do
  IO.eprintln ("Error: " ++ message)
  return 1

def readConfig (path : String) : IO (Except ConfigError String) := do
  try
    return .ok (← IO.FS.readFile path)
  catch
    | .noFileOrDirectory .. => return .error (.notFound path)
    | _ => return .error (.unreadable path)

partial def answerLines (desk : Desk) (entity : Entity) : IO Unit := do
  let line ← (← IO.getStdin).getLine
  if line.isEmpty then return
  let (printed, next) := Session.step desk (← currentSecond) entity line
  IO.print printed
  match next with
  | some entity => answerLines desk entity
  | none => return

def runWith (inputs : Inputs) (query : Option String) : IO UInt32 := do
  match start inputs with
  | .error e => complain e.message
  | .ok (desk, entity) =>
    match query with
    | some query =>
      let answer := desk.answerQuery entity (← currentSecond) query
      IO.print answer.text
      if answer.isValid then return 0 else complain "query is not valid"
    | none =>
      IO.print Session.banner
      answerLines desk entity
      return 0

def runOptions (o : Options) : IO UInt32 := do
  let config ← match o.config with
    | none => pure (.ok none)
    | some path => do pure ((← readConfig path).map some)
  match config with
  | .error e => complain e.message
  | .ok config =>
    let records ← o.records.mapM fun path => IO.FS.readFile path
    runWith ⟨config, o.entity, records, o.debug⟩ o.query

def main (args : List String) : IO UInt32 := do
  match Options.usual.read? args with
  | none => complain "bad options"
  | some o =>
    try runOptions o
    catch e => complain e.toString
