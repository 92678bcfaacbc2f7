import RecordDesk.Label.Normal
import RecordDesk.NameSet
import RecordDesk.Text.Split

/-!
Changing tags or scopes of many records at once: the marks on records, and the language of the bulk
prompt.
-/

namespace RecordDesk

/-- Adds a name that is not in the set and takes out one that is. -/
def NameSet.toggle (s : NameSet) (x : String) : NameSet :=
  if s.contains x then s.erase x else s.insert x

/-- Toggling a name changes whether it is there, and no other name. -/
theorem NameSet.mem_toggle {s : NameSet} {x y : String} : y ∈ s.toggle x ↔ (y ∈ s ↔ y ≠ x) := by
  have hcontains : s.contains x = true ↔ x ∈ s := contains_iff
  unfold toggle
  by_cases hy : y = x
  · subst hy
    split <;> simp_all [mem_erase, mem_insert]
  · split <;> simp [mem_erase, mem_insert, hy]

inductive BulkAction where
  | add
  | remove
  | set
  deriving DecidableEq

inductive BulkField where
  | tags
  | scopes
  deriving DecidableEq

def BulkAction.name : BulkAction → String
  | .add => "add"
  | .remove => "remove"
  | .set => "set"

def BulkField.name : BulkField → String
  | .tags => "tags"
  | .scopes => "scopes"

def BulkField.labelKind : BulkField → LabelKind
  | .tags => .tag
  | .scopes => .scope

/-- One change to one label set of many records. -/
structure BulkEdit where
  action : BulkAction
  field : BulkField
  values : List String
  deriving DecidableEq

inductive BulkError where
  | noAction
  | noValues
  deriving DecidableEq

def BulkError.message : BulkError → String
  | .noAction => "start with add:, remove:, set: (or +, -, =) followed by comma-separated values"
  | .noValues => "no values provided"

namespace BulkEdit

/-- The words that a prompt may start with. -/
def leads : List (String × BulkAction) :=
  [("add:", .add), ("remove:", .remove), ("set:", .set), ("+", .add), ("-", .remove), ("=", .set)]

/-- The action that a trimmed prompt starts with, and the text after it. -/
def action? (cs : List Char) : Option (BulkAction × List Char) :=
  leads.findSome? fun (lead, action) => (Text.after? lead.toList cs).map fun rest => (action, rest)

/-- The first occurrences in a list, in their order. -/
def distinct (xs : List String) : List String :=
  xs.foldl (fun seen x => if seen.contains x then seen else seen ++ [x]) []

/-- The normal forms of the comma-separated items, without empty ones and repetitions. -/
def valuesOf (kind : LabelKind) (cs : List Char) : List String :=
  distinct (((Text.pieces (· == ',') cs).map fun p => String.ofList (kind.normalList p)).filter (!·.isEmpty))

/-- Reads a prompt. Only setting may do without values: it clears the field. -/
def read (field : BulkField) (input : String) : Except BulkError BulkEdit :=
  match action? (Text.trimmed input.toList) with
  | none => .error .noAction
  | some (action, rest) =>
    let values := valuesOf field.labelKind rest
    if values.isEmpty && action != .set then .error .noValues
    else .ok ⟨action, field, values⟩

/-- The label set after the change. -/
def apply (e : BulkEdit) (s : NameSet) : NameSet :=
  match e.action with
  | .add => s.insertAll e.values
  | .remove => s.filter (!e.values.contains ·)
  | .set => .ofList e.values

end BulkEdit

end RecordDesk
