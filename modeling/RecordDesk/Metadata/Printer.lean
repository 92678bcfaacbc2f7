import RecordDesk.Metadata.Scalar
import RecordDesk.Metadata.Wire
import RecordDesk.Text.Split

/-!
Writing a metadata tree as text: a line for each entry in key order, two more spaces for each level,
lists on one line between brackets.
-/

namespace RecordDesk.Metadata

/-- What no list may hold is written as its JSON text. -/
def writeScalar (inList : Bool) : Value → String
  | .null => "null"
  | .bool true => "true"
  | .bool false => "false"
  | .int n => .ofList (Numeral.ofInt n.toInt)
  | .real x => .ofList (writeReal x)
  | .text s => if needsQuotes inList s then quote s else s
  | .list items => quote (Value.list items).toJson.compact
  | .tree entries => quote (Value.tree entries).toJson.compact

def writeList (items : List Value) : String :=
  "[" ++ Text.joinWith ", " (items.map (writeScalar true)) ++ "]"

def indentation (depth : Nat) : String := .ofList (List.replicate (2 * depth) ' ')

mutual

/-- The lines of an entry, the value of a tree below its key. -/
def writeEntry (depth : Nat) (k : String) : Value → List String
  | .tree entries => (indentation depth ++ k ++ ":") :: writeEntries (depth + 1) entries
  | .list items => [indentation depth ++ k ++ ": " ++ writeList items]
  | v => [indentation depth ++ k ++ ": " ++ writeScalar false v]

def writeEntries (depth : Nat) : List (String × Value) → List String
  | [] => []
  | (k, v) :: es => writeEntry depth k v ++ writeEntries depth es

end

def Tree.write (t : Tree) : String := .join ((writeEntries 0 t).map (· ++ "\n"))

end RecordDesk.Metadata
