import NetQuery.Json.Basic
import NetQuery.Number.Layout

namespace NetQuery.Json

open NetQuery.Number

def hexPair (n : Nat) : List Char :=
  [Nat.digitChar (n / 16), Nat.digitChar (n % 16)]

def escapeChar (c : Char) : List Char :=
  match c with
  | '"' => ['\\', '"']
  | '\\' => ['\\', '\\']
  | '\x08' => ['\\', 'b']
  | '\x0c' => ['\\', 'f']
  | '\n' => ['\\', 'n']
  | '\r' => ['\\', 'r']
  | '\t' => ['\\', 't']
  | _ => if c.toNat < 0x20 then ['\\', 'u', '0', '0'] ++ hexPair c.toNat else [c]

def stringText (s : String) : String :=
  String.ofList ('"' :: s.toList.flatMap escapeChar ++ ['"'])

/-- Numbers that are not finite have no text of their own. -/
def floatText (x : Binary64) : String :=
  if x.isFinite then recordText x else "null"

structure Spacing where
  /-- What stands before each part, at a depth. -/
  lead : Nat → String
  afterColon : String

def oneLine : Spacing := ⟨fun _ => "", ""⟩

def indented : Spacing := ⟨fun depth => "\n" ++ String.ofList (List.replicate (2 * depth) ' '), " "⟩

mutual

def text (spacing : Spacing) (depth : Nat) : Json → String
  | null => "null"
  | bool b => if b then "true" else "false"
  | int n => intText n
  | float x => floatText x
  | str s => stringText s
  | arr [] => "[]"
  | arr (item :: rest) =>
    "[" ++ spacing.lead (depth + 1) ++ item.text spacing (depth + 1) ++
      itemsText spacing (depth + 1) rest ++ spacing.lead depth ++ "]"
  | obj [] => "\x7b\x7d"
  | obj ((key, value) :: rest) =>
    "\x7b" ++ spacing.lead (depth + 1) ++ stringText key ++ ":" ++ spacing.afterColon ++
      value.text spacing (depth + 1) ++ membersText spacing (depth + 1) rest ++
      spacing.lead depth ++ "\x7d"

def itemsText (spacing : Spacing) (depth : Nat) : List Json → String
  | [] => ""
  | item :: rest =>
    "," ++ spacing.lead depth ++ item.text spacing depth ++ itemsText spacing depth rest

def membersText (spacing : Spacing) (depth : Nat) : List (String × Json) → String
  | [] => ""
  | (key, value) :: rest =>
    "," ++ spacing.lead depth ++ stringText key ++ ":" ++ spacing.afterColon ++
      value.text spacing depth ++ membersText spacing depth rest

end

def compact (value : Json) : String :=
  value.text oneLine 0

def pretty (value : Json) : String :=
  value.text indented 0

example : compact (obj [("a", arr [int 1, null]), ("b", arr [])]) =
    "\x7b\"a\":[1,null],\"b\":[]\x7d" := by decide

end NetQuery.Json
