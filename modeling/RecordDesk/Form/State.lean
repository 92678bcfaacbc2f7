import RecordDesk.Form.Basic

/-!
Forms as they are kept: the table, a list of values beside it, and the index of the field in focus. Every access goes by
index, and nothing in the data says that there is a value for each line of the table.
-/

namespace RecordDesk

structure FormState where
  specs : List FieldSpec
  values : List FieldValue
  focus : Nat

namespace FormState

def blank (specs : List FieldSpec) : FormState := ⟨specs, specs.map fun s => .blank s.kind, 0⟩

/-- Puts what a record holds for a field into a value of the right sort. -/
def seedValue (r : Record) (s : FieldSpec) (v : FieldValue) : FieldValue :=
  match s.kind, v with
  | .text, .text _ => .text (r.fieldText s.key)
  | .status, .choice options _ => .choice options r.status.index
  | .priority, .choice options _ =>
    .choice options (((r.field? s.key).bind Priority.ofName?).getD default).index
  | .tags, .labels e => .labels { e with committed := r.tags }
  | .scopes, .labels e => .labels { e with committed := r.scopes }
  | .structured .metadata, .structured _ => .structured (Metadata.Tree.write r.metadata)
  | .structured .json, .structured _ => .structured (Metadata.Tree.propertiesText r.metadata)
  | _, v => v

/-- A new form, with each value seeded that has a line in the table. -/
def seeded (specs : List FieldSpec) (r : Record) : FormState :=
  let f := blank specs
  { f with values := f.values.mapIdx fun i v => (specs[i]?).elim v fun s => seedValue r s v }

variable (f : FormState)

def setValue (index : Nat) (v : FieldValue) : FormState := { f with values := f.values.set index v }

/-! ## Moving and typing -/

/-- The label entry in focus, if the value in focus is one. -/
def focusedLabels? : Option LabelEntry :=
  match f.values[f.focus]? with
  | some (.labels e) => some e
  | _ => none

/-- What is staged in the label entry in focus joins its labels. -/
def commitFocused : FormState :=
  match f.focusedLabels? with
  | some e => f.setValue f.focus (.labels e.commit)
  | none => f

def focusNext : FormState :=
  let f := f.commitFocused
  if f.specs.isEmpty then f else { f with focus := (f.focus + 1) % f.specs.length }

def focusPrevious : FormState :=
  let f := f.commitFocused
  if f.specs.isEmpty then f else { f with focus := (f.focus + f.specs.length - 1) % f.specs.length }

/-- Stages the first label that completes the entry in focus. -/
def complete? (candidates : List String) : Option FormState :=
  match f.focusedLabels? with
  | some e => (e.complete? candidates).map fun e => f.setValue f.focus (.labels e)
  | none => none

/-- A key for the field in focus, which needs both its line and its value. -/
def press (k : Key) : FormState × Form.Outcome :=
  match f.specs[f.focus]?, f.values[f.focus]? with
  | some s, some v =>
    match Field.press ⟨s, v⟩ k with
    | .handled v => (f.setValue f.focus v, .handled)
    | .openEditor language => (f, .openEditor language)
    | .ignored => (f, .ignored)
  | _, _ => (f, .ignored)

/-! ## Access by key and by index -/

/-- The first line of the table with a key. -/
def index? (key : String) : Option Nat := f.specs.findIdx? (·.key == key)

def value? (key : String) : Option FieldValue := (f.index? key).bind (f.values[·]?)

/-- The text of a field that holds one. -/
def text (key : String) : String :=
  match f.value? key with
  | some (.text s) => s
  | some (.structured s) => s
  | _ => ""

def setText (key s : String) : FormState :=
  match f.index? key with
  | none => f
  | some i =>
    match f.values[i]? with
    | some (.text _) => f.setValue i (.text s)
    | some (.structured _) => f.setValue i (.structured s)
    | _ => f

def structuredAt? (index : Nat) : Option String :=
  match f.values[index]? with
  | some (.structured s) => some s
  | _ => none

def setStructuredAt (index : Nat) (s : String) : FormState :=
  match f.values[index]? with
  | some (.structured _) => f.setValue index (.structured s)
  | _ => f

/-- The index of the option of a choice. -/
def choice (key : String) : Nat :=
  match f.value? key with
  | some (.choice _ index) => index
  | _ => 0

def status : Status := .ofIndex (f.choice "status")

def priority : Priority := (Priority.all[f.choice "priority"]?).getD default

/-- The labels of a field, the staged one among them. -/
def labels (key : String) : List String :=
  match f.value? key with
  | some (.labels e) => e.resolved.toList
  | _ => []

/-! ## Fields with their values -/

/-- The form with each value beside its line of the table. -/
def form : Form := ⟨List.zipWith Field.mk f.specs f.values, f.focus⟩

end FormState

end RecordDesk
