import RecordDesk.Tab.Basic

/-!
What keys do to a tab, view by view. Every handler returns the tab and the commands to run.
-/

namespace RecordDesk.Tab

/-- Filters what is there at once, and asks the service for the same search. -/
def setSearch (t : Tab) (search : String) : Tab × List Command :=
  let t := { t with search }
  { t with view := t.listView }.filterRows.reload

def clearSearch (t : Tab) : Tab × List Command := if t.search.isEmpty then (t, []) else t.setSearch ""

def openDetail (t : Tab) : Tab × List Command :=
  match t.selected? with
  | none => (t, [])
  | some r => { t with detail := some r, view := .detail }.issue .detail 0 (.get t.kind r.id)

/-- Asks for the scopes that are in use, where forms have any. -/
def refreshScopes (t : Tab) : Tab × List Command :=
  if t.capabilities.scopes then t.issue .scopes 0 .listScopes else (t, [])

def openAdd (t : Tab) : Tab × List Command :=
  if !t.capabilities.create then ({ t with error := some (t.kind.label ++ " are read-only") }, [])
  else if t.capabilities.relate then
    { t with picker := t.picker.restart, view := .relate .source }.queryCandidates
  else { t.openForm t.kind.blankForm with view := .add }.refreshScopes

def pressToggle (t : Tab) (choice : ToggleChoice) (k : Key) : Tab × List Command :=
  match k with
  | .left => ({ t with focus := .toggle .add }, [])
  | .right => ({ t with focus := .toggle .library }, [])
  | .down => ({ t with focus := .rows }, [])
  | .esc => ({ t with focus := .rows }, [])
  | .enter =>
    let t := { t with focus := .rows }
    if choice = .add then t.openAdd else (t, [])
  | _ => (t, [])

def openBulkPrompt (t : Tab) (field : BulkField) : Tab × List Command :=
  let supported := match field with
    | .tags => t.capabilities.bulkTags
    | .scopes => t.capabilities.bulkScopes
  if !supported then
    ({ t with error := some s!"{t.kind.label} do not support bulk {field.name}" }, [])
  else if t.marks.isEmpty then ({ t with error := some "select rows with space first" }, [])
  else ({ t with prompt := "", view := .bulkPrompt field }, [])

def toggleArchived (t : Tab) : Tab × List Command :=
  let shown := !t.includeArchived
  { t with
    includeArchived := shown
    notice := some (if shown then "archived shown" else "archived hidden") }.reload

/-- A character typed into the list extends the search. -/
def typeSearch (t : Tab) (k : Key) : Tab × List Command :=
  match k.printable? with
  | some c => t.setSearch (t.search.push c)
  | none => (t, [])

def pressRows (t : Tab) (k : Key) : Tab × List Command :=
  match k with
  | .up =>
    if (t.list.selected?.getD 0) = 0 then ({ t with focus := .toggle .add }, [])
    else ({ t with list := t.list.up }, [])
  | .down => ({ t with list := t.list.down }, [])
  | .enter => t.openDetail
  | .tab =>
    match t.suggestion? with
    | some s => t.setSearch s
    | none => (t, [])
  | .backspace => if t.search.isEmpty then (t, []) else t.setSearch (Text.dropLast t.search)
  | .ctrl 'u' => t.clearSearch
  | .ctrl 'a' => t.toggleArchived
  | .ctrl 'r' => t.reload
  | .ctrl 'b' => t.openBulkPrompt .tags
  | .ctrl 'g' => t.openBulkPrompt .scopes
  | .esc => if t.search.isEmpty then ({ t with marks := .empty }, []) else t.clearSearch
  | .char ' ' =>
    if t.search.isEmpty then
      match t.selected? with
      | some r => ({ t with marks := t.marks.toggle r.id }, [])
      | none => (t, [])
    else t.typeSearch k
  | k => t.typeSearch k

def pressList (t : Tab) (k : Key) : Tab × List Command :=
  match t.focus with
  | .toggle choice => t.pressToggle choice k
  | .rows => t.pressRows k

/-- Asks before an action on a record, unless one is still under way. -/
def openConfirm (t : Tab) (action : ConfirmAction) (target : String) : Tab × List Command :=
  if t.requests.isPending .confirm then
    ({ t with error := some (action.name ++ " already in progress") }, [])
  else ({ t with view := .confirm action target t.view }, [])

def closeDetail (t : Tab) : Tab × List Command := ({ t with detail := none, view := t.listView }, [])

def editDetail (t : Tab) (r : Record) : Tab × List Command :=
  { t.openForm (t.kind.seedForm r) with view := .edit }.refreshScopes

def archiveDetail (t : Tab) (r : Record) : Tab × List Command :=
  if r.status = .archived then ({ t with notice := some (r.title ++ " is already archived") }, [])
  else t.openConfirm .archive r.id

def pressDetail (t : Tab) (k : Key) : Tab × List Command :=
  match t.detail with
  | none => ({ t with view := t.listView }, [])
  | some r =>
    match k with
    | .char 'e' => if t.capabilities.edit then t.editDetail r else (t, [])
    | .char 'a' => if t.capabilities.archive then t.archiveDetail r else (t, [])
    | .char 'r' => if t.capabilities.revert then t.openConfirm .revert r.id else (t, [])
    | .ctrl 'r' => t.issue .detail 0 (.get t.kind r.id)
    | .esc => t.closeDetail
    | .char 'q' => t.closeDetail
    | _ => (t, [])

def pressConfirm (t : Tab) (action : ConfirmAction) (target : String) (back : View) (k : Key) :
    Tab × List Command :=
  let yes := { t with view := back }.issue .confirm 0 (action.request t.kind target)
  let no := ({ t with view := back }, [])
  match k with
  | .char 'y' => yes
  | .char 'Y' => yes
  | .char 'n' => no
  | .char 'N' => no
  | .esc => no
  | _ => (t, [])

/-- Sends the bulk edit of the prompt. The prompt stays open when it cannot be read or sent. -/
def sendBulk (t : Tab) (field : BulkField) : Tab × List Command :=
  match BulkEdit.read field t.prompt with
  | .error e => ({ t with error := some e.message }, [])
  | .ok edit =>
    let (t, commands) := t.issue .bulk 0 (.bulkUpdate t.kind t.marks.toList edit)
    if commands.isEmpty then (t, []) else ({ t with prompt := "", view := t.listView }, commands)

def pressBulkPrompt (t : Tab) (field : BulkField) (k : Key) : Tab × List Command :=
  match k with
  | .esc => ({ t with prompt := "", view := t.listView }, [])
  | .enter => t.sendBulk field
  | .backspace => ({ t with prompt := Text.dropLast t.prompt }, [])
  | .ctrl 'u' => ({ t with prompt := "" }, [])
  | k =>
    match k.printable? with
    | some c => ({ t with prompt := t.prompt.push c }, [])
    | none => (t, [])

/-- Leaves a form without saving, to where it was opened. -/
def cancelForm (t : Tab) : Tab :=
  let t := { t with form := none }
  match t.view with
  | .edit => { t with view := .detail }
  | .relate .details => { t with picker := { t.picker with target := none }, view := .relate .target }
  | _ => { t with view := t.listView }

/-- The request that saving the form stands for; none in a view that saves nothing. -/
def saveRequest? (t : Tab) (f : Form) : Option (Except FormError Request) :=
  match t.view, t.detail with
  | .add, _ => some ((t.kind.buildPayload f none).map .create)
  | .edit, some r => some ((t.kind.buildPayload f (some r)).map fun p => .update t.kind r.id (.full p))
  | .relate .details, _ =>
    match t.picker.source, t.picker.target with
    | some source, some target => some ((relatePayload source target f).map .create)
    | _, _ => some (.error .unpicked)
  | _, _ => none

def saveForm (t : Tab) : Tab × List Command :=
  if t.requests.isPending .save then ({ t with error := some "save already in progress" }, [])
  else match t.form.bind t.saveRequest? with
    | none => (t, [])
    | some (.error e) => ({ t with error := some e.message }, [])
    | some (.ok r) => t.issue .save t.formToken r

/-- Completes the scope in focus, or goes on to the next field. -/
def completeOrNext (t : Tab) (f : Form) : Form :=
  let completed :=
    if (f.focused?.any fun d => d.spec.kind = .scopes) then f.complete? t.knownScopes else none
  completed.getD f.focusNext

/-- A key for the field in focus, which may open an editor. -/
def pressField (t : Tab) (f : Form) (k : Key) : Tab :=
  let (f, outcome) := f.press k
  let t := { t with form := some f }
  match outcome with
  | .openEditor language =>
    let editor : Editor :=
      ⟨f.focus, (f.focused?.map fun d => d.spec.label).getD "", language, (f.structuredAt? f.focus).getD ""⟩
    { t with editors := editor :: t.editors }
  | _ => t

def pressForm (t : Tab) (k : Key) : Tab × List Command :=
  match t.form with
  | none => ({ t with view := t.listView }, [])
  | some f =>
    match k with
    | .esc => (t.cancelForm, [])
    | .ctrl 's' => t.saveForm
    | .tab => ({ t with form := some (t.completeOrNext f) }, [])
    | .down => ({ t with form := some f.focusNext }, [])
    | .backTab => ({ t with form := some f.focusPrevious }, [])
    | .up => ({ t with form := some f.focusPrevious }, [])
    | k => (t.pressField f k, [])

/-- Escape stores the text in the form's field; all other keys edit it. -/
def pressEditor (t : Tab) (e : Editor) (rest : List Editor) (k : Key) : Tab :=
  if k = .esc then
    { t with editors := rest, form := t.form.map (·.setStructuredAt e.field e.buffer) }
  else { t with editors := e.press k :: rest }

def setPickerQuery (t : Tab) (query : String) : Tab × List Command :=
  { t with picker := t.picker.setQuery query }.queryCandidates

/-- Takes the selected candidate for the end that is being picked. -/
def pick (t : Tab) (step : RelateStep) : Tab × List Command :=
  match t.picker.selected? with
  | none => (t, [])
  | some r =>
    if step = .source then
      { t with picker := { t.picker with source := some r }, view := .relate .target }.setPickerQuery ""
    else if t.picker.source.any fun s => s.id == r.id then
      ({ t with error := some "pick a different target than the source" }, [])
    else
      let t := { t with picker := { t.picker with target := some r } }
      ({ t.openForm (.blank relateFields) with view := .relate .details }, [])

def leavePicker (t : Tab) (step : RelateStep) : Tab × List Command :=
  if step = .target then
    { t with picker := { t.picker with source := none }, view := .relate .source }.setPickerQuery ""
  else ({ t with picker := t.picker.restart, view := t.listView }, [])

def pressPicker (t : Tab) (step : RelateStep) (k : Key) : Tab × List Command :=
  match k with
  | .up => ({ t with picker := { t.picker with list := t.picker.list.up } }, [])
  | .down => ({ t with picker := { t.picker with list := t.picker.list.down } }, [])
  | .esc => t.leavePicker step
  | .enter => t.pick step
  | .backspace =>
    if t.picker.query.isEmpty then (t, []) else t.setPickerQuery (Text.dropLast t.picker.query)
  | .ctrl 'u' => t.setPickerQuery ""
  | k =>
    match k.printable? with
    | some c => t.setPickerQuery (t.picker.query.push c)
    | none => (t, [])

def pressView (t : Tab) (k : Key) : Tab × List Command :=
  match t.view with
  | .list => t.pressList k
  | .search => t.pressList k
  | .detail => t.pressDetail k
  | .add => t.pressForm k
  | .edit => t.pressForm k
  | .confirm action target back => t.pressConfirm action target back k
  | .bulkPrompt field => t.pressBulkPrompt field k
  | .relate .details => t.pressForm k
  | .relate step => t.pressPicker step k

/-- A key goes to the open editor, or else to the view, which first drops its messages. -/
def press (t : Tab) (k : Key) : Tab × List Command :=
  match t.editors with
  | e :: rest => (t.pressEditor e rest k, [])
  | [] => { t with error := none, notice := none }.pressView k

end RecordDesk.Tab
