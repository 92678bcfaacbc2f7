import RecordDesk.Key
import RecordDesk.Label.Entry
import RecordDesk.Record.Kind
import RecordDesk.Text.Split

/-!
Fields of a form: what a table says of a field, the value it holds, and what a key does to it.
-/

namespace RecordDesk

/-- The two languages in which a tree can be edited as text. -/
inductive TreeLanguage where
  | metadata
  | json
  deriving DecidableEq

def TreeLanguage.name : TreeLanguage → String
  | .metadata => "metadata"
  | .json => "json"

inductive FieldKind where
  | text
  | status
  | priority
  | tags
  | scopes
  | structured (language : TreeLanguage)
  deriving DecidableEq

/-- What a table says of a field. -/
structure FieldSpec where
  key : String
  label : String
  kind : FieldKind
  required : Bool
  deriving DecidableEq

inductive FieldValue where
  | text (s : String)
  | choice (options : List String) (index : Nat)
  | labels (entry : LabelEntry)
  | structured (s : String)

def statusOptions : List String := [Status.active, Status.archived].map Status.name

def priorityOptions : List String := Priority.all.map Priority.name

def FieldValue.blank : FieldKind → FieldValue
  | .text => .text ""
  | .status => .choice statusOptions 0
  | .priority => .choice priorityOptions (default : Priority).index
  | .tags => .labels (.blank .tag)
  | .scopes => .labels (.blank .scope)
  | .structured _ => .structured ""

structure Field where
  spec : FieldSpec
  value : FieldValue

/-- What a key does to a field: it changes the value, opens an editor, or means nothing there. -/
inductive FieldEffect where
  | handled (value : FieldValue)
  | openEditor (language : TreeLanguage)
  | ignored

def pressText (s : String) (k : Key) : Option String :=
  match k with
  | .backspace => some (Text.dropLast s)
  | .ctrl 'u' => some ""
  | k => k.printable?.map s.push

/-- The index of the neighbouring option, counting round. -/
def pressChoice (options : List String) (index : Nat) (k : Key) : Option Nat :=
  match k with
  | .right => some ((index + 1) % options.length)
  | .char ' ' => some ((index + 1) % options.length)
  | .left => some ((index + options.length - 1) % options.length)
  | _ => none

def FieldEffect.ofValue : Option FieldValue → FieldEffect
  | some v => .handled v
  | none => .ignored

def Field.press (f : Field) (k : Key) : FieldEffect :=
  match f.value with
  | .text s => .ofValue ((pressText s k).map .text)
  | .choice options index => .ofValue ((pressChoice options index k).map (.choice options))
  | .labels e => .ofValue ((e.press k).map .labels)
  | .structured _ =>
    match k, f.spec.kind with
    | .enter, .structured language => .openEditor language
    | _, _ => .ignored

end RecordDesk
