import RecordDesk.Json.Printer
import RecordDesk.Json.Reader
import RecordDesk.Metadata.Value
import RecordDesk.Text.Blank

/-!
Metadata as JSON and back. A list or object inside a list is kept as its JSON text.
-/

namespace RecordDesk.Metadata

mutual

def Value.toJson : Value → Json
  | .null => .null
  | .bool b => .bool b
  | .int n => .int n.toInt
  | .real x => .ofReal x
  | .text s => .text s
  | .list items => .array (itemsToJson items)
  | .tree entries => .object (entriesToJson entries)

def itemsToJson : List Value → List Json
  | [] => []
  | v :: vs => v.toJson :: itemsToJson vs

def entriesToJson : List (String × Value) → List (String × Json)
  | [] => []
  | (k, v) :: es => (k, v.toJson) :: entriesToJson es

end

def Tree.toJson (t : Tree) : Json := .object (entriesToJson t)

/-- An integer beyond 64 signed bits becomes the nearest double. -/
def ofInteger (n : Int) : Value :=
  if -2 ^ 63 ≤ n ∧ n < 2 ^ 63 then .int (Int64.ofInt n)
  else .real (.nearest (n < 0) n.natAbs 1)

/-- An item of a list. -/
def Value.ofItem : Json → Value
  | .null => .null
  | .bool b => .bool b
  | .int n => ofInteger n
  | .real x => .real x
  | .text s => .text s
  | .array items => .text (Json.array items).compact
  | .object entries => .text (Json.object entries).compact

mutual

def Value.ofJson : Json → Value
  | .array items => .list (items.map Value.ofItem)
  | .object entries => .tree (entriesOfJson entries)
  | .null => .null
  | .bool b => .bool b
  | .int n => ofInteger n
  | .real x => .real x
  | .text s => .text s

def entriesOfJson : List (String × Json) → List (String × Value)
  | [] => []
  | (k, v) :: es => (k, Value.ofJson v) :: entriesOfJson es

end

/-- Why a JSON value is no metadata. -/
inductive WireError where
  | notObject (v : Json)

def WireError.message : WireError → String
  | .notObject v => "metadata must be a JSON object, got " ++ v.compact

/-- The tree of a JSON value in normal form; null stands for the empty tree. -/
def Tree.ofJson? : Json → Except WireError Tree
  | .null => .ok []
  | .object entries => .ok (entriesOfJson entries)
  | v => .error (.notObject v)

/-- Why a text is no properties tree. -/
inductive PropertiesError where
  | notJson (fault : Json.Fault)
  | notObject
  deriving DecidableEq

def PropertiesError.message : PropertiesError → String
  | .notJson fault => "properties must be valid JSON -- fix the syntax and retry: " ++ fault.message
  | .notObject => "properties must be a JSON object like \x7b\"weight\": 1\x7d"

/-- Reads properties from JSON text; a blank text holds none. -/
def Tree.readProperties (s : String) : Except PropertiesError Tree :=
  if s.toList.all Text.isBlank then .ok []
  else match Json.read s with
    | .error fault => .error (.notJson fault)
    | .ok v =>
      match v.normal with
      | .object entries => .ok (entriesOfJson entries)
      | _ => .error .notObject

/-- Properties as indented JSON text; no text at all when there are none. -/
def Tree.propertiesText (t : Tree) : String := if t.isEmpty then "" else t.toJson.pretty

end RecordDesk.Metadata
