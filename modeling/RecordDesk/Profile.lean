import RecordDesk.Form.Basic
import RecordDesk.Form.Payload

/-!
What sets the kinds apart: what may be done with their records, which fields their forms have, how a
record reads in the list and in detail, and how a filled form becomes a payload.
-/

namespace RecordDesk

structure Capabilities where
  create : Bool := false
  edit : Bool := false
  archive : Bool := false
  bulkTags : Bool := false
  bulkScopes : Bool := false
  scopes : Bool := false
  revert : Bool := false
  /-- Adding goes through picking a source and a target first. -/
  relate : Bool := false
  deriving DecidableEq

/-- Why a form gives no payload. -/
inductive FormError where
  | field (e : FieldError)
  | payload (e : PayloadFault)
  | needsPicker
  | readOnly
  | unpicked
  deriving DecidableEq

def FormError.message : FormError → String
  | .field e => e.message
  | .payload e => e.message
  | .needsPicker => "relationships are created with the relate picker -- press enter on Add"
  | .readOnly => "history entries are read-only -- use r to revert instead"
  | .unpicked => "pick a source and a target first"

/-- A payload that meets its conditions. -/
def Payload.checked (p : Payload) : Except FormError Payload :=
  match p.fault? with
  | some e => .error (.payload e)
  | none => .ok p

namespace FieldSpec

def ofText (key label : String) (required : Bool) : FieldSpec := ⟨key, label, .text, required⟩

def status : FieldSpec := ⟨"status", "Status", .status, false⟩

def tags : FieldSpec := ⟨"tags", "Tags", .tags, false⟩

def scopes : FieldSpec := ⟨"scopes", "Scopes", .scopes, false⟩

def priority : FieldSpec := ⟨"priority", "Priority", .priority, false⟩

def metadata : FieldSpec := ⟨"metadata", "Metadata", .structured .metadata, false⟩

def properties : FieldSpec := ⟨"properties", "Properties", .structured .json, false⟩

end FieldSpec

/-- The form at the end of picking a source and a target. -/
def relateFields : List FieldSpec := [.ofText "relationship_type" "Type" true, .properties]

/-- The payload that ties two records together. -/
def relatePayload (source target : Record) (f : Form) : Except FormError Payload := do
  let type ← (f.requiredText "relationship_type").mapError .field
  let properties ← (f.tree .json "properties").mapError .field
  (Payload.relationship ⟨source.id, target.id, type, .active, properties⟩).checked

namespace Kind

def capabilities : Kind → Capabilities
  | entities =>
    { create := true, edit := true, archive := true, bulkTags := true, bulkScopes := true, scopes := true }
  | relationships => { create := true, edit := true, archive := true, relate := true }
  | jobs => { create := true, edit := true, archive := true, bulkTags := true }
  | logs => { create := true, edit := true, archive := true, bulkTags := true }
  | protocols => { create := true, edit := true, archive := true, bulkTags := true }
  | history => { revert := true }

def formFields : Kind → List FieldSpec
  | entities =>
    [.ofText "name" "Name" true, .ofText "type" "Type" true, .status, .tags, .scopes, .metadata]
  | relationships => [.ofText "relationship_type" "Type" true, .status, .properties]
  | jobs =>
    [.ofText "title" "Title" true, .ofText "description" "Description" false, .priority, .status,
      .tags, .metadata]
  | logs => [.ofText "log_type" "Log type" true, .ofText "content" "Content" true, .status, .tags, .metadata]
  | protocols =>
    [.ofText "name" "Name" true, .ofText "title" "Title" false, .ofText "version" "Version" false,
      .ofText "content" "Content" true, .status, .tags, .metadata]
  | history => []

def blankForm (k : Kind) : Form := .blank k.formFields

def seedForm (k : Kind) (r : Record) : Form := .seeded k.formFields r

def archivedMark (r : Record) : String :=
  match r.status with
  | .active => ""
  | .archived => "  (archived)"

/-- Names side by side, each after a mark. -/
def joinNames (mark : String) (names : NameSet) : String :=
  Text.joinWith " " (names.toList.map (mark ++ ·))

/-- The text of a field between two others, or nothing when the field is empty or missing. -/
def optionalPart (before : String) (r : Record) (key : String) : String :=
  let s := r.fieldText key
  if s.isEmpty then "" else before ++ s

/-- The row of a record in the list of a kind's tab. -/
def rowLabel (k : Kind) (r : Record) : String :=
  match k with
  | entities =>
    r.title ++ "  [" ++ (r.field? "type").getD "?" ++ "]" ++
      (if r.tags.isEmpty then "" else "  " ++ joinNames "" r.tags) ++ archivedMark r
  | relationships =>
    let source := ((r.field? "source_name").or (r.field? "source_id")).getD "?"
    let target := ((r.field? "target_name").or (r.field? "target_id")).getD "?"
    source ++ " -[" ++ r.title ++ "]-> " ++ target ++ archivedMark r
  | jobs => "[" ++ (r.field? "priority").getD "medium" ++ "] " ++ r.title ++ archivedMark r
  | logs =>
    let date := (r.updatedAt.map fun t => String.ofList t.date.write).getD ""
    Text.trimStart
      (date ++ " " ++ (r.field? "log_type").getD "note" ++ ": " ++ r.title ++ archivedMark r)
  | protocols =>
    r.title ++ optionalPart " v" r "version" ++ optionalPart " - " r "title" ++ archivedMark r
  | history =>
    let time := (r.updatedAt.map fun t => String.ofList (t.date.write ++ ' ' :: t.clock)).getD ""
    Text.trimStart (time ++ " " ++ (r.field? "actor").getD "unknown" ++ ": " ++ r.title)

/-- Labels and values that describe a record. -/
def detailLines (r : Record) : List (String × String) :=
  ((r.fields.filter fun f => !f.2.isEmpty).map fun f => (f.1.map fun c => if c == '_' then ' ' else c, f.2)) ++
    [("status", r.status.name)] ++
    (if r.tags.isEmpty then [] else [("tags", joinNames "" r.tags)]) ++
    (if r.scopes.isEmpty then [] else [("scopes", joinNames "#" r.scopes)]) ++
    (r.updatedAt.map fun t => ("updated", String.ofList t.date.write)).toList

/-- The text block under the details: relationships show their properties as JSON. -/
def detailBody (k : Kind) (r : Record) : String :=
  match k with
  | relationships => Metadata.Tree.propertiesText r.metadata
  | _ => Metadata.Tree.write r.metadata

/-- The payload of a filled form; `editing` is the record that the form changes. -/
def buildPayload (k : Kind) (f : Form) (editing : Option Record) : Except FormError Payload :=
  match k with
  | entities => do
    let name ← (f.requiredText "name").mapError .field
    let type ← (f.requiredText "type").mapError .field
    let metadata ← (f.tree .metadata "metadata").mapError .field
    (Payload.entity ⟨name, type, f.status, f.labels "tags", f.labels "scopes", metadata⟩).checked
  | relationships =>
    match editing with
    | none => .error .needsPicker
    | some r => do
      let type ← (f.requiredText "relationship_type").mapError .field
      let properties ← (f.tree .json "properties").mapError .field
      (Payload.relationship
        ⟨r.fieldText "source_id", r.fieldText "target_id", type, f.status, properties⟩).checked
  | jobs => do
    let title ← (f.requiredText "title").mapError .field
    let metadata ← (f.tree .metadata "metadata").mapError .field
    (Payload.job
      ⟨title, Text.trim (f.text "description"), f.priority, f.status, f.labels "tags", metadata⟩).checked
  | logs => do
    let type ← (f.requiredText "log_type").mapError .field
    let content ← (f.requiredText "content").mapError .field
    let metadata ← (f.tree .metadata "metadata").mapError .field
    (Payload.log ⟨type, content, f.status, f.labels "tags", metadata⟩).checked
  | protocols => do
    let name ← (f.requiredText "name").mapError .field
    let content ← (f.requiredText "content").mapError .field
    let metadata ← (f.tree .metadata "metadata").mapError .field
    (Payload.protocol
      ⟨name, Text.trim (f.text "title"), Text.trim (f.text "version"), content, f.status, f.labels "tags",
        metadata⟩).checked
  | history => .error .readOnly

end Kind

end RecordDesk
