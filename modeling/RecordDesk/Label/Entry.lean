import RecordDesk.Key
import RecordDesk.Label.Normal
import RecordDesk.NameSet
import RecordDesk.Text.Split

/-!
Typing a set of labels. What is typed is staged, and joins the committed labels, in normal form, at
a separator.
-/

namespace RecordDesk

structure LabelEntry where
  kind : LabelKind
  committed : NameSet
  staging : String

namespace LabelEntry

def blank (kind : LabelKind) : LabelEntry := ⟨kind, .empty, ""⟩

/-- The normal form of the staged text, unless it is empty. -/
def pending? (e : LabelEntry) : Option String :=
  let s := e.kind.normal e.staging
  if s.isEmpty then none else some s

/-- The committed labels and the staged one, as saving sees them. -/
def resolved (e : LabelEntry) : NameSet :=
  match e.pending? with
  | none => e.committed
  | some s => e.committed.insert s

def commit (e : LabelEntry) : LabelEntry := { e with committed := e.resolved, staging := "" }

/-- Committing adds a label that was not there. -/
def commitAdds (e : LabelEntry) : Bool :=
  match e.pending? with
  | none => false
  | some s => !e.committed.contains s

/-- What a key does to the entry, if it is a key for sets. -/
def press (e : LabelEntry) (k : Key) : Option LabelEntry :=
  match k with
  | .char ' ' => some e.commit
  | .char ',' => some e.commit
  | .enter => some e.commit
  | .backspace =>
    if e.staging.isEmpty then some { e with committed := e.committed.eraseLast }
    else some { e with staging := Text.dropLast e.staging }
  | .ctrl 'u' => some { e with staging := "" }
  | k => k.printable?.map fun c => { e with staging := e.staging.push c }

/-- Stages the first candidate that continues the staged text and is not committed yet. -/
def complete? (e : LabelEntry) (candidates : List String) : Option LabelEntry :=
  match e.pending? with
  | none => none
  | some s =>
    (candidates.find? fun c => s.toList.isPrefixOf c.toList && !e.committed.contains c).map fun c =>
      { e with staging := c }

end LabelEntry

end RecordDesk
