import RecordDesk.Metadata.Wire
import RecordDesk.Record.Basic

/-!
The JSON documents of the record service: records, lists, counts and error notes. Keys that a
document declares may stand in it only once; of any other key the last entry counts.
-/

namespace RecordDesk.Web

/-! ## Parts of documents -/

/-- The value of a declared key, or `some none` when the key is missing. -/
def declared? (key : String) (entries : List (String × Json)) : Option (Option Json) :=
  match entries.filter (·.1 == key) with
  | [] => some none
  | [e] => some (some e.2)
  | _ => none

/-- A text that may be missing or null. -/
def optionalText? : Option Json → Option (Option String)
  | none => some none
  | some .null => some none
  | some (.text s) => some (some s)
  | some _ => none

def text? : Json → Option String
  | .text s => some s
  | _ => none

/-- A list of texts that may be missing or null, and then is empty. -/
def optionalTexts? : Option Json → Option (List String)
  | none => some []
  | some .null => some []
  | some (.array items) => items.mapM text?
  | some _ => none

/-- An id is a text, or an integer of 64 bits. -/
def idText? : Json → Option String
  | .text s => some s
  | .int n => if -2 ^ 63 ≤ n ∧ n < 2 ^ 63 then some (.ofList (Numeral.ofInt n)) else none
  | _ => none

mutual

/-- What a field shows of a value: nothing of null, of a list the items side by side. -/
def fieldText? : Json → Option String
  | .null => none
  | .text s => some s
  | .array items => some (Text.joinWith ", " (fieldTexts items))
  | v => some v.compact

def fieldTexts : List Json → List String
  | [] => []
  | v :: vs => (fieldText? v).toList ++ fieldTexts vs

end

/-! ## Records -/

/-- A record as the service writes it. `rest` holds all keys that are not declared. -/
structure RecordDocument where
  id : String
  status : Option String
  tags : List String
  scopes : List String
  metadata : Json
  properties : Json
  updatedAt : Option String
  createdAt : Option String
  rest : List (String × Json)

def declaredKeys : List String :=
  ["id", "status", "tags", "scopes", "metadata", "properties", "updated_at", "created_at"]

def RecordDocument.ofEntries? (entries : List (String × Json)) : Option RecordDocument := do
  let id ← (← declared? "id" entries).bind idText?
  let status ← optionalText? (← declared? "status" entries)
  let tags ← optionalTexts? (← declared? "tags" entries)
  let scopes ← optionalTexts? (← declared? "scopes" entries)
  let metadata ← declared? "metadata" entries
  let properties ← declared? "properties" entries
  let updatedAt ← optionalText? (← declared? "updated_at" entries)
  let createdAt ← optionalText? (← declared? "created_at" entries)
  return {
    id, status, tags, scopes, updatedAt, createdAt
    metadata := (metadata.getD .null).normal
    properties := (properties.getD .null).normal
    rest := Keyed.ofList (Json.normalEntries (entries.filter fun e => !declaredKeys.contains e.1)) }

def RecordDocument.ofJson? : Json → Option RecordDocument
  | .object entries => RecordDocument.ofEntries? entries
  | _ => none

/-- The attributes that a record of a kind shows, in their order. -/
def attributeKeys : Kind → List String
  | .entities => ["name", "type"]
  | .relationships => ["relationship_type", "source_id", "source_name", "target_id", "target_name"]
  | .jobs => ["title", "description", "priority"]
  | .logs => ["log_type", "content"]
  | .protocols => ["name", "title", "version", "content"]
  | .history => ["resource", "record_id", "action", "actor", "changed_fields"]

/-- The title of a record with these attributes. -/
def titleOf (kind : Kind) (fields : List (String × String)) : String :=
  let field := fun key => (Record.getField? key fields).getD ""
  match kind with
  | .entities => field "name"
  | .protocols => field "name"
  | .relationships => field "relationship_type"
  | .jobs => field "title"
  | .logs => ((Text.lines (field "content")).head?).getD ""
  | .history => field "action" ++ " " ++ field "resource" ++ "/" ++ field "record_id"

namespace RecordDocument

def fields (d : RecordDocument) (kind : Kind) : List (String × String) :=
  (attributeKeys kind).filterMap fun key =>
    ((Keyed.find? key d.rest).bind fieldText?).map fun s => (key, s)

/-- The value that the record keeps as its metadata. -/
def structured (d : RecordDocument) (kind : Kind) : Json :=
  if kind = .relationships then d.properties else d.metadata

/-- The text of the time stamp, which the history writes under a name of its own. -/
def stamp? (d : RecordDocument) : Option String :=
  (d.updatedAt.or d.createdAt).or ((Keyed.find? "at" d.rest).bind text?)

/-- The record of a document. A time stamp that cannot be read is none, and an unknown status counts
as active. -/
def toRecord (d : RecordDocument) (kind : Kind) : Except Metadata.WireError Record := do
  let metadata ← Metadata.Tree.ofJson? (d.structured kind)
  let fields := d.fields kind
  return { Record.named kind d.id (titleOf kind fields) with
    fields, metadata
    status := (d.status.bind Status.ofName?).getD .active
    tags := .ofList d.tags
    scopes := .ofList d.scopes
    updatedAt := d.stamp?.bind Instant.read? }

end RecordDocument

/-! ## Lists, counts and notes -/

/-- The items of a list, which stands alone or under the key `items` of an object. -/
def listItems? : Json → Option (List Json)
  | .array items => some items
  | .object entries =>
    match declared? "items" entries with
    | some (some (.array items)) => some items
    | _ => none
  | _ => none

def countOf? : Json → Option Nat
  | .int n => if 0 ≤ n then some n.toNat else none
  | _ => none

/-- How many records a bulk update changed, under either of two keys, or in a list of its own. -/
def updatedCount? : Json → Option Nat
  | .object entries =>
    match entries.filter fun e => e.1 == "updated" || e.1 == "count" with
    | [e] => countOf? e.2
    | _ => none
  | .array [v] => countOf? v
  | _ => none

/-- The message of an error value: a text, or an object with a text. -/
def errorText? : Json → Option String
  | .text s => some s
  | .object entries =>
    match declared? "message" entries with
    | some (some (.text s)) => some s
    | _ => none
  | _ => none

/-- An error value that may be missing or null. -/
def optionalError? : Option Json → Option (Option String)
  | none => some none
  | some .null => some none
  | some v => (errorText? v).map some

/-- The message in a note of an error: the error, or else the detail, or else the message. -/
def noteMessage (error detail message : Option Json) : Option String := do
  let error ← optionalError? error
  let detail ← optionalText? detail
  let message ← optionalText? message
  error.or (detail.or message)

/-- The message of a note, whose three parts may also stand in a list. -/
def note? : Json → Option String
  | .object entries => do
    let error ← declared? "error" entries
    let detail ← declared? "detail" entries
    let message ← declared? "message" entries
    noteMessage error detail message
  | .array items => if items.length ≤ 3 then noteMessage items[0]? items[1]? items[2]? else none
  | _ => none

end RecordDesk.Web
