import NetQuery.Compilation
import NetQuery.Json.Printer
import NetQuery.Text.Printable

namespace NetQuery

variable [Regex.Library]

/-- What stays the same while lines are answered. -/
structure Desk where
  config : Config
  records : Option (List Record)

structure Answer where
  text : String
  isValid : Bool

namespace Desk

def line (s : String) : String := s ++ "\n"

def traceLine (t : StageTrace) : String :=
  line ("• " ++ t.stage ++ ": " ++ Number.natText t.input ++ " -> " ++ Number.natText t.output)

def siftedText (c : Compilation) (records : List Record) : String :=
  let (kept, trace) := c.run records
  line "\n[post-processing]" ++ String.join (trace.map traceLine) ++
    line (Json.pretty (.arr (kept.map (·.data))))

/-- Compiles a query and sifts the records, if there are any. -/
def answerQuery (desk : Desk) (entity : Entity) (now : Int) (text : String) : Answer :=
  let c := Compilation.ofText ⟨desk.config, .usual, entity, now⟩ text
  let sifted := match desk.records with
    | some records => if c.isValid then siftedText c records else ""
    | none => ""
  ⟨line (Json.pretty c.summary) ++ sifted, c.isValid⟩

end Desk

namespace Session

open Desk

def banner : String := line "search-compiler 0.1.0 (:help for commands)"

def help : String := line
  "Enter a query to compile it for the current entity.

  :entity <name>    switch entity (flows, alarms, rules, devices, target_lists)
  :optimize <query> score a query and show its optimized form
  :tokens <query>   show the token stream
  :help             show this help
  :quit             exit"

inductive Command where
  | nothing
  | quit
  | help
  | entity (name : String)
  | optimize (query : String)
  | tokens (query : String)
  | unknown (name : String)
  | query (text : String)
  deriving DecidableEq, Repr

/-- The command of a line. Its name ends at the first blank space. -/
def Command.ofLine (text : String) : Command :=
  let cs := Text.trimBlanks text.toList
  let name := String.ofList (cs.takeWhile (· != ' '))
  let rest := String.ofList (Text.trimBlanks (cs.dropWhile (· != ' ')))
  if cs.isEmpty then nothing
  else
    match name with
    | ":quit" | ":q" | ":exit" => quit
    | ":help" | ":h" => help
    | ":entity" => entity rest
    | ":optimize" => optimize rest
    | ":tokens" => tokens rest
    | _ => if cs.head? == some ':' then unknown name else query (String.ofList cs)

def alignRight (width : Nat) (s : String) : String :=
  String.ofList (List.replicate (width - s.length) ' ') ++ s

def alignLeft (width : Nat) (s : String) : String :=
  s ++ String.ofList (List.replicate (width - s.length) ' ')

def tokenLine (position : Nat) (kind text : String) : String :=
  line (alignRight 4 (Number.natText position) ++ " " ++ alignLeft 13 kind ++ " " ++
    Text.quoted text)

def endKind : String := "EOF"

def tokensText (query : String) : String :=
  match tokenize query with
  | .ok tokens =>
    String.join (tokens.items.map fun t =>
      tokenLine t.span.start t.symbol.kind t.symbol.text) ++
    tokenLine tokens.finish endKind ""
  | .error e => line ("✗ " ++ e.message)

def entityText (entity : Entity) : String :=
  line ("✓ entity set to " ++ entity.name ++ " (" ++ Number.natText entity.fields.length ++
    " fields)")

/-- What is printed for a line, and the entity from then on; without one the session ends. -/
def step (desk : Desk) (now : Int) (entity : Entity) (text : String) : String × Option Entity :=
  match Command.ofLine text with
  | .nothing => ("", some entity)
  | .quit => ("", none)
  | .help => (help, some entity)
  | .entity name =>
    match Entity.ofName? name with
    | some entity => (entityText entity, some entity)
    | none => (line ("✗ " ++ UnknownEntity.message ⟨name⟩), some entity)
  | .optimize query =>
    (line (Json.pretty (Score.admission query desk.config.maxComplexity).toJson), some entity)
  | .tokens query => (tokensText query, some entity)
  | .unknown name => (line ("✗ unknown command " ++ name ++ " (:help for commands)"), some entity)
  | .query text => ((desk.answerQuery entity now text).text, some entity)

/-- What is printed for all lines, up to the one that ends the session. -/
def run (desk : Desk) (now : Int) (entity : Entity) : List String → String
  | [] => ""
  | text :: rest =>
    match step desk now entity text with
    | (printed, some entity) => printed ++ run desk now entity rest
    | (printed, none) => printed

end Session

end NetQuery
