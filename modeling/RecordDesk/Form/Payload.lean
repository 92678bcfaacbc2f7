import RecordDesk.Metadata.Wire
import RecordDesk.Record.Basic

/-!
What a form sends: one structure for each kind that can be created, the conditions it has to meet,
its JSON body, and the record that a service makes of it.
-/

namespace RecordDesk

structure EntityDraft where
  name : String
  type : String
  status : Status
  tags : List String
  scopes : List String
  metadata : Metadata.Tree

structure RelationshipDraft where
  source : String
  target : String
  type : String
  status : Status
  properties : Metadata.Tree

structure JobDraft where
  title : String
  description : String
  priority : Priority
  status : Status
  tags : List String
  metadata : Metadata.Tree

structure LogDraft where
  type : String
  content : String
  status : Status
  tags : List String
  metadata : Metadata.Tree

structure ProtocolDraft where
  name : String
  title : String
  version : String
  content : String
  status : Status
  tags : List String
  metadata : Metadata.Tree

inductive Payload where
  | entity (d : EntityDraft)
  | relationship (d : RelationshipDraft)
  | job (d : JobDraft)
  | log (d : LogDraft)
  | protocol (d : ProtocolDraft)

/-- A condition that a payload does not meet. -/
inductive PayloadFault where
  | entityName
  | entityType
  | relationshipEnds
  | relationshipLoop
  | relationshipType
  | jobTitle
  | logType
  | logContent
  | protocolName
  | protocolNameBlank
  | protocolContent
  deriving DecidableEq

def PayloadFault.message : PayloadFault → String
  | .entityName => "entity name is required -- enter a name and retry"
  | .entityType => "entity type is required -- enter a type (for example person) and retry"
  | .relationshipEnds => "relationship needs both a source and a target -- pick them and retry"
  | .relationshipLoop => "relationship source and target must differ"
  | .relationshipType => "relationship type is required -- enter a type and retry"
  | .jobTitle => "job title is required -- enter a title and retry"
  | .logType => "log type is required -- enter a type and retry"
  | .logContent => "log content is required -- enter content and retry"
  | .protocolName => "protocol name is required -- enter a name and retry"
  | .protocolNameBlank => "protocol name must not contain spaces -- use a slug like daily-review"
  | .protocolContent => "protocol content is required -- enter content and retry"

namespace Payload

def kind : Payload → Kind
  | entity _ => .entities
  | relationship _ => .relationships
  | job _ => .jobs
  | log _ => .logs
  | protocol _ => .protocols

/-- The conditions in the order in which they are looked at, each with whether it fails. -/
def checks : Payload → List (Bool × PayloadFault)
  | entity d => [(Text.isBlankText d.name, .entityName), (Text.isBlankText d.type, .entityType)]
  | relationship d =>
    [(d.source.isEmpty || d.target.isEmpty, .relationshipEnds),
      (d.source == d.target, .relationshipLoop), (Text.isBlankText d.type, .relationshipType)]
  | job d => [(Text.isBlankText d.title, .jobTitle)]
  | log d => [(Text.isBlankText d.type, .logType), (Text.isBlankText d.content, .logContent)]
  | protocol d =>
    [(Text.isBlankText d.name, .protocolName),
      (d.name.toList.any Text.isBlank, .protocolNameBlank),
      (Text.isBlankText d.content, .protocolContent)]

/-- The first condition that is not met. -/
def fault? (p : Payload) : Option PayloadFault := (p.checks.find? (·.1)).map (·.2)

def validate (p : Payload) : Except PayloadFault Unit :=
  match p.fault? with
  | some e => .error e
  | none => .ok ()

def textItems (ss : List String) : Json := .array (ss.map .text)

/-- The body's entries by their wire names. -/
def entries : Payload → List (String × Json)
  | entity d =>
    [("name", .text d.name), ("type", .text d.type), ("status", .text d.status.name),
      ("tags", textItems d.tags), ("scopes", textItems d.scopes), ("metadata", Metadata.Tree.toJson d.metadata)]
  | relationship d =>
    [("source_id", .text d.source), ("target_id", .text d.target), ("relationship_type", .text d.type),
      ("status", .text d.status.name), ("properties", Metadata.Tree.toJson d.properties)]
  | job d =>
    [("title", .text d.title), ("description", .text d.description), ("priority", .text d.priority.name),
      ("status", .text d.status.name), ("tags", textItems d.tags), ("metadata", Metadata.Tree.toJson d.metadata)]
  | log d =>
    [("log_type", .text d.type), ("content", .text d.content), ("status", .text d.status.name),
      ("tags", textItems d.tags), ("metadata", Metadata.Tree.toJson d.metadata)]
  | protocol d =>
    [("name", .text d.name), ("title", .text d.title), ("version", .text d.version),
      ("content", .text d.content), ("status", .text d.status.name), ("tags", textItems d.tags),
      ("metadata", Metadata.Tree.toJson d.metadata)]

/-- The JSON body that creates or replaces a record. -/
def body (p : Payload) : Json := .object (Keyed.ofList p.entries)

/-- The record that a payload describes, under an id that the service gives it. -/
def toRecord (id : String) : Payload → Record
  | entity d =>
    { Record.named .entities id d.name with
      status := d.status, fields := [("name", d.name), ("type", d.type)],
      tags := .ofList d.tags, scopes := .ofList d.scopes, metadata := d.metadata }
  | relationship d =>
    { Record.named .relationships id d.type with
      status := d.status,
      fields := [("relationship_type", d.type), ("source_id", d.source), ("target_id", d.target)],
      metadata := d.properties }
  | job d =>
    { Record.named .jobs id d.title with
      status := d.status,
      fields := [("title", d.title), ("description", d.description), ("priority", d.priority.name)],
      tags := .ofList d.tags, metadata := d.metadata }
  | log d =>
    { Record.named .logs id d.content with
      status := d.status, fields := [("log_type", d.type), ("content", d.content)],
      tags := .ofList d.tags, metadata := d.metadata }
  | protocol d =>
    { Record.named .protocols id d.name with
      status := d.status,
      fields := [("name", d.name), ("title", d.title), ("version", d.version), ("content", d.content)],
      tags := .ofList d.tags, metadata := d.metadata }

end Payload

end RecordDesk
