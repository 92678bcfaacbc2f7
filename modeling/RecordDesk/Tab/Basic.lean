import RecordDesk.Command
import RecordDesk.Form.Editor
import RecordDesk.ListWindow
import RecordDesk.Profile
import RecordDesk.Search

/-!
A tab: what it shows, what it has loaded, and which commands are under way. Keys and deliveries
change it in `Tab.Keys` and `Tab.Deliveries`; every change returns the commands to run next.
-/

namespace RecordDesk

inductive ToggleChoice where
  | add
  | library
  deriving DecidableEq

/-- Where keys land in the list: on the rows, or on the choice above them. -/
inductive ListFocus where
  | rows
  | toggle (choice : ToggleChoice)
  deriving DecidableEq

inductive ConfirmAction where
  | archive
  | revert
  deriving DecidableEq

def ConfirmAction.name : ConfirmAction → String
  | .archive => "archive"
  | .revert => "revert"

/-- A stable name for an action on records of a kind. -/
def ConfirmAction.tag (a : ConfirmAction) (k : Kind) : String :=
  (if k = .history then "history" else k.noun) ++ "-" ++ a.name

/-- The request that a confirmed action stands for. -/
def ConfirmAction.request (a : ConfirmAction) (kind : Kind) (target : String) : Request :=
  match a with
  | .archive => .update kind target (.status .archived)
  | .revert => .revert target

inductive RelateStep where
  | source
  | target
  | details
  deriving DecidableEq

def RelateStep.name : RelateStep → String
  | .source => "source"
  | .target => "target"
  | .details => "details"

inductive View where
  | list
  | search
  | detail
  | add
  | edit
  | confirm (action : ConfirmAction) (target : String) (back : View)
  | bulkPrompt (field : BulkField)
  | relate (step : RelateStep)
  deriving DecidableEq

/-- A few words that name a view. -/
def View.describe : View → String
  | .list => "list"
  | .search => "search"
  | .detail => "detail"
  | .add => "add"
  | .edit => "edit"
  | .confirm action target back => "confirm " ++ action.name ++ " " ++ target ++ " -> " ++ back.describe
  | .bulkPrompt field => "bulk " ++ field.name
  | .relate step => "relate " ++ step.name

/-- A busy slot that changes records says so. -/
def Slot.reportsBusy : Slot → Bool
  | .save => true
  | .bulk => true
  | .confirm => true
  | _ => false

/-- Picking the two ends of a relationship. `catalog` is the last list that was loaded without a
query, from which the candidates are filtered until the service answers. -/
structure Picker where
  source : Option Record
  target : Option Record
  query : String
  catalog : List Record
  candidates : List Record
  list : ListWindow
  generation : Nat

namespace Picker

def empty : Picker := ⟨none, none, "", [], [], default, 0⟩

def setCandidates (p : Picker) (rs : List Record) : Picker :=
  { p with candidates := rs, list := p.list.setItems (rs.map Record.title) }

/-- Forgets the picks and the query, but not the catalog. -/
def restart (p : Picker) : Picker := { p with source := none, target := none, query := "" }.setCandidates []

def setQuery (p : Picker) (query : String) : Picker :=
  { p with query }.setCandidates (p.catalog.filter fun r => Search.hit query r.title)

def selected? (p : Picker) : Option Record := p.list.selected?.bind (p.candidates[·]?)

end Picker

/-- `catalog` is the last list that was loaded without a search; `rows` is what the list shows.
`formToken` counts the forms opened, so that the answer to a save closes only the form that it came
from. The editor on top of `editors` takes all keys. -/
structure Tab where
  kind : Kind
  view : View
  focus : ListFocus
  catalog : List Record
  rows : List Record
  list : ListWindow
  search : String
  includeArchived : Bool
  marks : NameSet
  prompt : String
  detail : Option Record
  form : Option Form
  formToken : Nat
  editors : List Editor
  picker : Picker
  requests : Requests
  generation : Nat
  knownScopes : List String
  knownActors : List String
  error : Option String
  notice : Option String
  activated : Bool

namespace Tab

def new (kind : Kind) : Tab where
  kind := kind
  view := .list
  focus := .rows
  catalog := []
  rows := []
  list := default
  search := ""
  includeArchived := false
  marks := .empty
  prompt := ""
  detail := none
  form := none
  formToken := 0
  editors := []
  picker := .empty
  requests := .idle
  generation := 0
  knownScopes := []
  knownActors := []
  error := none
  notice := none
  activated := false

def capabilities (t : Tab) : Capabilities := t.kind.capabilities

def editor? (t : Tab) : Option Editor := t.editors.head?

/-- Something has the keyboard to itself. -/
def isModal (t : Tab) : Bool :=
  !t.editors.isEmpty || match t.view with
    | .confirm _ _ _ => true
    | .bulkPrompt _ => true
    | _ => false

def selected? (t : Tab) : Option Record := t.list.selected?.bind (t.rows[·]?)

/-- What Tab would make of the search text. -/
def suggestion? (t : Tab) : Option String :=
  Search.suggest t.search (t.catalog.map Record.title ++ t.knownActors)

def setViewport (t : Tab) (height : Nat) : Tab :=
  { t with
    list := t.list.setHeight height
    picker := { t.picker with list := t.picker.list.setHeight height } }

/-- The list view, which is called a search while there is something to search for. -/
def listView (t : Tab) : View := if t.search.isEmpty then .list else .search

def setRows (t : Tab) (rs : List Record) : Tab :=
  { t with rows := rs, list := t.list.setItems (rs.map t.kind.rowLabel) }

/-- Shows the part of the catalog that the search text hits. -/
def filterRows (t : Tab) : Tab := t.setRows (t.catalog.filter fun r => Search.hit t.search r.title)

def openForm (t : Tab) (f : Form) : Tab := { t with form := some f, formToken := t.formToken + 1 }

/-- The query that the list shows, under a new generation; deliveries of an older one no longer
count. -/
def reload (t : Tab) : Tab × List Command :=
  let t := { t with generation := t.generation + 1, requests := t.requests.set .load .pending }
  (t, [⟨t.kind, .load, t.generation, .query t.kind ⟨t.search, t.includeArchived⟩⟩])

/-- The query for the candidates of the picker, under a new generation of its own. -/
def queryCandidates (t : Tab) : Tab × List Command :=
  let picker := { t.picker with generation := t.picker.generation + 1 }
  ({ t with picker }, [⟨t.kind, .candidates, picker.generation, .query .entities ⟨picker.query, false⟩⟩])

/-- Starts a request in a slot, unless the slot is busy. -/
def issue (t : Tab) (slot : Slot) (generation : Nat) (r : Request) : Tab × List Command :=
  if t.requests.isPending slot then
    (if slot.reportsBusy then { t with error := some (r.describe ++ " already in progress") } else t, [])
  else ({ t with requests := t.requests.set slot .pending }, [⟨t.kind, slot, generation, r⟩])

/-- The first time a tab is shown it loads its list; the history also asks who acts in it. -/
def activate (t : Tab) : Tab × List Command :=
  if t.activated then (t, [])
  else
    let (t, load) := { t with activated := true }.reload
    if t.kind = .history then
      let (t, actors) := t.issue .actors 0 .listActors
      (t, load ++ actors)
    else (t, load)

end Tab

end RecordDesk
