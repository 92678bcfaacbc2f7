import RecordDesk.Form.Field
import RecordDesk.Metadata.Printer
import RecordDesk.Metadata.Reader
import RecordDesk.Record.Basic

/-!
Forms: fields in the order of their table, one of them in focus, and reading typed values out of
them.
-/

namespace RecordDesk

structure Form where
  fields : List Field
  focus : Nat

/-- Why the text of a field gives no value. -/
inductive FieldError where
  | missing (label : String)
  | metadata (e : Metadata.LineError)
  | properties (e : Metadata.PropertiesError)
  deriving DecidableEq

def FieldError.message : FieldError → String
  | .missing label => label ++ " is required -- enter a value and retry"
  | .metadata e => "metadata " ++ e.message
  | .properties e => e.message

namespace Form

def blank (specs : List FieldSpec) : Form := ⟨specs.map fun s => ⟨s, .blank s.kind⟩, 0⟩

/-- The value that shows what a record holds for a field. -/
def seed (r : Record) (s : FieldSpec) : FieldValue :=
  match s.kind with
  | .text => .text (r.fieldText s.key)
  | .status => .choice statusOptions r.status.index
  | .priority => .choice priorityOptions (((r.field? s.key).bind Priority.ofName?).getD default).index
  | .tags => .labels ⟨.tag, r.tags, ""⟩
  | .scopes => .labels ⟨.scope, r.scopes, ""⟩
  | .structured .metadata => .structured (Metadata.Tree.write r.metadata)
  | .structured .json => .structured (Metadata.Tree.propertiesText r.metadata)

def seeded (specs : List FieldSpec) (r : Record) : Form := ⟨specs.map fun s => ⟨s, seed r s⟩, 0⟩

def focused? (f : Form) : Option Field := f.fields[f.focus]?

/-- Puts a value into the field with an index. -/
def setValue (f : Form) (index : Nat) (v : FieldValue) : Form :=
  { f with fields := f.fields.modify index fun d => { d with value := v } }

/-- The label entry in focus, if the field in focus is one. -/
def focusedLabels? (f : Form) : Option LabelEntry :=
  match f.focused? with
  | some ⟨_, .labels e⟩ => some e
  | _ => none

/-- What is staged in the label entry in focus joins its labels. -/
def commitFocused (f : Form) : Form :=
  match f.focusedLabels? with
  | some e => f.setValue f.focus (.labels e.commit)
  | none => f

def focusNext (f : Form) : Form :=
  let f := f.commitFocused
  if f.fields.isEmpty then f else { f with focus := (f.focus + 1) % f.fields.length }

def focusPrevious (f : Form) : Form :=
  let f := f.commitFocused
  if f.fields.isEmpty then f else { f with focus := (f.focus + f.fields.length - 1) % f.fields.length }

/-- Stages the first label that completes the entry in focus. -/
def complete? (f : Form) (candidates : List String) : Option Form :=
  match f.focusedLabels? with
  | some e => (e.complete? candidates).map fun e => f.setValue f.focus (.labels e)
  | none => none

inductive Outcome where
  | handled
  | openEditor (language : TreeLanguage)
  | ignored
  deriving DecidableEq

/-- A key for the field in focus. -/
def press (f : Form) (k : Key) : Form × Outcome :=
  match f.focused? with
  | none => (f, .ignored)
  | some d =>
    match d.press k with
    | .handled v => (f.setValue f.focus v, .handled)
    | .openEditor language => (f, .openEditor language)
    | .ignored => (f, .ignored)

def find? (f : Form) (key : String) : Option Field := f.fields.find? (·.spec.key == key)

/-- The text of a field that holds one. -/
def text (f : Form) (key : String) : String :=
  match f.find? key with
  | some ⟨_, .text s⟩ => s
  | some ⟨_, .structured s⟩ => s
  | _ => ""

def setText (f : Form) (key s : String) : Form :=
  match f.fields.findIdx? (·.spec.key == key) with
  | none => f
  | some i =>
    match f.fields[i]? with
    | some ⟨_, .text _⟩ => f.setValue i (.text s)
    | some ⟨_, .structured _⟩ => f.setValue i (.structured s)
    | _ => f

def structuredAt? (f : Form) (index : Nat) : Option String :=
  match f.fields[index]? with
  | some ⟨_, .structured s⟩ => some s
  | _ => none

def setStructuredAt (f : Form) (index : Nat) (s : String) : Form :=
  match f.fields[index]? with
  | some ⟨_, .structured _⟩ => f.setValue index (.structured s)
  | _ => f

/-- The index of the option of a choice. -/
def choice (f : Form) (key : String) : Nat :=
  match f.find? key with
  | some ⟨_, .choice _ index⟩ => index
  | _ => 0

def status (f : Form) : Status := .ofIndex (f.choice "status")

def priority (f : Form) : Priority := (Priority.all[f.choice "priority"]?).getD default

/-- The labels of a field, the staged one among them. -/
def labels (f : Form) (key : String) : List String :=
  match f.find? key with
  | some ⟨_, .labels e⟩ => e.resolved.toList
  | _ => []

/-- The trimmed text of a field, which a required field must have. -/
def requiredText (f : Form) (key : String) : Except FieldError String :=
  let s := Text.trim (f.text key)
  match f.find? key with
  | some d => if s.isEmpty && d.spec.required then .error (.missing d.spec.label) else .ok s
  | none => .ok s

/-- The text of a field read as a tree. -/
def tree (f : Form) (language : TreeLanguage) (key : String) : Except FieldError Metadata.Tree :=
  match language with
  | .metadata => (Metadata.Tree.read (f.text key)).mapError .metadata
  | .json => (Metadata.Tree.readProperties (f.text key)).mapError .properties

end Form

end RecordDesk
