import NetQuery.Text.Ascii
import NetQuery.Text.Blank

namespace NetQuery

inductive Entity where
  | flows
  | alarms
  | rules
  | devices
  | targetLists
  deriving DecidableEq, Repr

inductive FieldKind where
  | text
  | number
  | boolean
  | ip
  /-- Epoch seconds or milliseconds, or a date text. -/
  | timestamp
  /-- A level, from low to critical. -/
  | severity
  deriving DecidableEq, Repr

def FieldKind.all : List FieldKind := [.text, .number, .boolean, .ip, .timestamp, .severity]

def FieldKind.name : FieldKind → String
  | text => "text"
  | number => "number"
  | boolean => "boolean"
  | ip => "ip"
  | timestamp => "timestamp"
  | severity => "severity"

/-- A declared field; `path` leads through nested objects of the record. -/
structure FieldSpec where
  name : String
  path : List String
  kind : FieldKind
  deriving DecidableEq, Repr

/-- The path with a slash before each key. -/
def FieldSpec.pointer (spec : FieldSpec) : String :=
  String.join (spec.path.map ("/" ++ ·))

def severityRank? (level : String) : Option Nat :=
  match Text.lowerAscii (Text.trim level) with
  | "low" => some 1
  | "medium" => some 2
  | "high" => some 3
  | "critical" => some 4
  | _ => none

namespace Entity

def all : List Entity := [flows, alarms, rules, devices, targetLists]

def name : Entity → String
  | flows => "flows"
  | alarms => "alarms"
  | rules => "rules"
  | devices => "devices"
  | targetLists => "target_lists"

/-- The entity that a text names: in any case, with dashes for underscores, singular or plural. -/
def ofName? (s : String) : Option Entity :=
  let letter (c : Char) : Char := if c == '-' then '_' else c.toLower
  match String.ofList ((Text.trimBlanks s.toList).map letter) with
  | "flows" | "flow" => some flows
  | "alarms" | "alarm" => some alarms
  | "rules" | "rule" => some rules
  | "devices" | "device" => some devices
  | "target_lists" | "target_list" => some targetLists
  | _ => none

def flowFields : List FieldSpec :=
  [⟨"timestamp", ["ts"], .timestamp⟩,
   ⟨"ts", ["ts"], .timestamp⟩,
   ⟨"source_ip", ["source", "ip"], .ip⟩,
   ⟨"destination_ip", ["destination", "ip"], .ip⟩,
   ⟨"device_ip", ["device", "ip"], .ip⟩,
   ⟨"device_name", ["device", "name"], .text⟩,
   ⟨"device_id", ["device", "id"], .text⟩,
   ⟨"source_port", ["source", "port"], .number⟩,
   ⟨"destination_port", ["destination", "port"], .number⟩,
   ⟨"protocol", ["protocol"], .text⟩,
   ⟨"direction", ["direction"], .text⟩,
   ⟨"blocked", ["block"], .boolean⟩,
   ⟨"bytes", ["total"], .number⟩,
   ⟨"download", ["download"], .number⟩,
   ⟨"upload", ["upload"], .number⟩,
   ⟨"duration", ["duration"], .number⟩,
   ⟨"count", ["count"], .number⟩,
   ⟨"domain", ["domain"], .text⟩,
   ⟨"category", ["category"], .text⟩,
   ⟨"region", ["region"], .text⟩,
   ⟨"network_name", ["network", "name"], .text⟩,
   ⟨"gid", ["gid"], .text⟩]

def alarmFields : List FieldSpec :=
  [⟨"timestamp", ["ts"], .timestamp⟩,
   ⟨"ts", ["ts"], .timestamp⟩,
   ⟨"aid", ["aid"], .number⟩,
   ⟨"type", ["type"], .number⟩,
   ⟨"severity", ["severity"], .severity⟩,
   ⟨"status", ["status"], .text⟩,
   ⟨"resolved", ["resolved"], .boolean⟩,
   ⟨"archived", ["archived"], .boolean⟩,
   ⟨"message", ["message"], .text⟩,
   ⟨"description", ["description"], .text⟩,
   ⟨"direction", ["direction"], .text⟩,
   ⟨"protocol", ["protocol"], .text⟩,
   ⟨"source_ip", ["device", "ip"], .ip⟩,
   ⟨"destination_ip", ["remote", "ip"], .ip⟩,
   ⟨"device_ip", ["device", "ip"], .ip⟩,
   ⟨"remote_ip", ["remote", "ip"], .ip⟩,
   ⟨"local_ip", ["device", "ip"], .ip⟩,
   ⟨"device_name", ["device", "name"], .text⟩,
   ⟨"remote_domain", ["remote", "domain"], .text⟩,
   ⟨"remote_country", ["remote", "country"], .text⟩,
   ⟨"gid", ["gid"], .text⟩]

def ruleFields : List FieldSpec :=
  [⟨"id", ["id"], .text⟩,
   ⟨"action", ["action"], .text⟩,
   ⟨"target_type", ["target", "type"], .text⟩,
   ⟨"target_value", ["target", "value"], .text⟩,
   ⟨"direction", ["direction"], .text⟩,
   ⟨"protocol", ["protocol"], .text⟩,
   ⟨"status", ["status"], .text⟩,
   ⟨"disabled", ["disabled"], .boolean⟩,
   ⟨"hit_count", ["hit", "count"], .number⟩,
   ⟨"scope", ["scope", "type"], .text⟩,
   ⟨"notes", ["notes"], .text⟩,
   ⟨"created_at", ["ts"], .timestamp⟩,
   ⟨"updated_at", ["updateTs"], .timestamp⟩,
   ⟨"gid", ["gid"], .text⟩]

def deviceFields : List FieldSpec :=
  [⟨"id", ["id"], .text⟩,
   ⟨"name", ["name"], .text⟩,
   ⟨"ip", ["ip"], .ip⟩,
   ⟨"mac", ["mac"], .text⟩,
   ⟨"mac_vendor", ["macVendor"], .text⟩,
   ⟨"online", ["online"], .boolean⟩,
   ⟨"ip_reserved", ["ipReserved"], .boolean⟩,
   ⟨"last_seen", ["lastSeen"], .timestamp⟩,
   ⟨"network_name", ["network", "name"], .text⟩,
   ⟨"group_name", ["group", "name"], .text⟩,
   ⟨"total_download", ["totalDownload"], .number⟩,
   ⟨"total_upload", ["totalUpload"], .number⟩,
   ⟨"gid", ["gid"], .text⟩]

def targetListFields : List FieldSpec :=
  [⟨"id", ["id"], .text⟩,
   ⟨"name", ["name"], .text⟩,
   ⟨"owner", ["owner"], .text⟩,
   ⟨"category", ["category"], .text⟩,
   ⟨"notes", ["notes"], .text⟩,
   ⟨"updated_at", ["lastUpdated"], .timestamp⟩]

/-- The declared fields, in order. -/
def fields : Entity → List FieldSpec
  | flows => flowFields
  | alarms => alarmFields
  | rules => ruleFields
  | devices => deviceFields
  | targetLists => targetListFields

def field? (entity : Entity) (name : String) : Option FieldSpec :=
  entity.fields.find? (·.name == name)

def hasField (entity : Entity) (name : String) : Bool :=
  (entity.field? name).isSome

def fieldNames (entity : Entity) : List String :=
  entity.fields.map (·.name)

def kind? (entity : Entity) (name : String) : Option FieldKind :=
  (entity.field? name).map (·.kind)

def namesOfKind (entity : Entity) (kind : FieldKind) : List String :=
  (entity.fields.filter (·.kind == kind)).map (·.name)

def isOfKind (entity : Entity) (name : String) (kind : FieldKind) : Bool :=
  entity.kind? name == some kind

theorem hasField_iff {entity : Entity} {name : String} :
    entity.hasField name = true ↔ name ∈ entity.fieldNames := by
  simp [hasField, field?, fieldNames]

example : ofName? " Target-List" = some targetLists := by decide

end Entity

structure UnknownEntity where
  text : String
  deriving DecidableEq, Repr

def UnknownEntity.message (e : UnknownEntity) : String :=
  "Unknown entity type '" ++ e.text ++ "'"

end NetQuery
