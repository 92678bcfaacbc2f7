import RecordDesk.Tab.Basic
import RecordDesk.View.Line

/-!
A tab drawn as lines: a header, what its view shows, and the last message.
-/

namespace RecordDesk.Tab

def header (t : Tab) : Line :=
  let l := (Line.toned t.kind.label .header).push s!"  {t.rows.length} shown" .dim
  let l := if t.marks.isEmpty then l else l.push s!"  {t.marks.size} marked" .marked
  let l := if t.includeArchived then l.push "  +archived" .dim else l
  if t.requests.isPending .load then l.push "  loading..." .dim else l

def toggleTone (t : Tab) (choice : ToggleChoice) : Tone :=
  if t.focus = .toggle choice then .selected else .dim

def toggleLine (t : Tab) : Line :=
  ((Line.empty.push "[ Add ]" (t.toggleTone .add)).push " " .normal).push "[ Library ]" (t.toggleTone .library)

/-- The search text, and dimly what Tab would add to it. -/
def searchLine (t : Tab) : Line :=
  let l := (Line.toned "/ " .dim).push t.search .normal
  match t.suggestion? with
  | some s => l.push (.ofList (s.toList.drop t.search.toList.length)) .dim
  | none => l

/-- A row of the list, with a star when its record is marked. -/
def rowLine (t : Tab) (index : Nat) (label : String) : Line :=
  let marked := (t.rows[index]?).any fun r => t.marks.contains r.id
  let tone :=
    if t.list.isSelected index && t.focus = .rows then .selected else if marked then .marked else .normal
  Line.toned ((if marked then "* " else "  ") ++ label) tone

def listLines (t : Tab) : List Line :=
  t.toggleLine :: t.searchLine ::
    (if t.list.labels.isEmpty then
      [Line.toned (if t.requests.isPending .load then "loading..." else "no records") .dim]
    else t.list.visible.mapIdx fun i label => t.rowLine (t.list.start + i) label)

def detailHints (c : Capabilities) : String :=
  Text.joinWith "  "
    ((if c.edit then ["e edit"] else []) ++ (if c.archive then ["a archive"] else []) ++
      (if c.revert then ["r revert"] else []) ++ ["esc back"])

def detailView (t : Tab) : List Line :=
  match t.detail with
  | none => [Line.toned "nothing selected" .dim]
  | some r =>
    let body := t.kind.detailBody r
    [Line.toned r.title .header] ++
      ((Kind.detailLines r).map fun f => (Line.toned (f.1 ++ ": ") .dim).push f.2 .normal) ++
      (if body.isEmpty then [] else Line.empty :: (Text.lines body).map Line.plain) ++
      [Line.toned (detailHints t.capabilities) .hint]

/-- What a field shows after its label. -/
def valueSpans (l : Line) : FieldValue → Line
  | .text s => l.push s .normal
  | .choice options index => l.push ("< " ++ (options[index]?).getD "" ++ " >") .normal
  | .labels e =>
    let committed := Text.joinWith " " e.committed.toList
    let spacer := if committed.isEmpty || e.staging.isEmpty then "" else " "
    (l.push committed .normal).push (spacer ++ e.staging) .dim
  | .structured s =>
    l.push (match (Text.lines s).length with
      | 0 => "(enter to edit)"
      | 1 => Text.trim s
      | n => s!"{n} lines (enter to edit)") .normal

def fieldLine (focused : Bool) (d : Field) : Line :=
  let label :=
    (if focused then "> " else "  ") ++ d.spec.label ++ (if d.spec.required then "*" else "") ++ ": "
  valueSpans (Line.toned label (if focused then .selected else .dim)) d.value

def editorLines (e : Editor) : List Line :=
  [Line.toned (Text.lower e.label ++ " (esc to close)") .dim] ++
    ((Text.pieces (· == '\n') e.buffer.toList).map fun cs => Line.plain (.ofList cs)) ++
    [match e.status with
      | .ok s => Line.toned s .notice
      | .error s => Line.toned s .error]

def formTitle (t : Tab) : String :=
  match t.view with
  | .edit => "edit " ++ t.kind.noun
  | .relate _ => "relationship details"
  | _ => "new " ++ t.kind.noun

def formLines (t : Tab) : List Line :=
  match t.form with
  | none => []
  | some f =>
    Line.toned t.formTitle .header ::
      match t.editor? with
      | some e => editorLines e
      | none =>
        (f.fields.mapIdx fun i d => fieldLine (i == f.focus) d) ++
          [Line.toned ((if t.requests.isPending .save then "saving...  " else "") ++
            "tab next  shift+tab prev  ctrl+s save  esc cancel") .hint]

def confirmLines (t : Tab) (action : ConfirmAction) : List Line :=
  let subject := match t.detail with
    | some r => r.title
    | none => "this record"
  [Line.toned (match action with
      | .archive => "archive " ++ t.kind.noun ++ " " ++ subject ++ "?"
      | .revert => "revert the change recorded by " ++ subject ++ "?") .header,
    Line.toned "y confirm  n/esc cancel" .hint]

def bulkLines (t : Tab) (field : BulkField) : List Line :=
  [((Line.toned s!"bulk {field.name} for {t.marks.size} selected: " .header).push t.prompt .normal).push "_" .dim,
    Line.toned "add:a,b  remove:a  set:a,b  (or + - =)  enter apply  esc cancel" .hint]

def pickedTitle : Option Record → String
  | some r => r.title
  | none => "?"

def candidateLine (t : Tab) (index : Nat) (label : String) : Line :=
  Line.toned ("  " ++ label) (if t.picker.list.isSelected index then .selected else .normal)

def pickerLines (t : Tab) (prompt : String) : List Line :=
  [(Line.toned prompt .dim).push t.picker.query .normal] ++
    (if t.picker.list.labels.isEmpty then [Line.toned "no matching entities" .dim] else []) ++
    (t.picker.list.visible.mapIdx fun i label => t.candidateLine (t.picker.list.start + i) label) ++
    [Line.toned "type to filter  enter pick  esc back" .hint]

def relateLines (t : Tab) (step : RelateStep) : List Line :=
  Line.toned ("relate: " ++ pickedTitle t.picker.source ++ " -> " ++ pickedTitle t.picker.target) .header ::
    match step with
    | .source => t.pickerLines "pick source: "
    | .target => t.pickerLines "pick target: "
    | .details => t.formLines

def viewLines (t : Tab) : List Line :=
  match t.view with
  | .list => t.listLines
  | .search => t.listLines
  | .detail => t.detailView
  | .add => t.formLines
  | .edit => t.formLines
  | .confirm action _ _ => t.confirmLines action
  | .bulkPrompt field => t.bulkLines field
  | .relate step => t.relateLines step

/-- An error hides a notice. -/
def messageLines (t : Tab) : List Line :=
  match t.error, t.notice with
  | some e, _ => [Line.toned ("error: " ++ e) .error]
  | none, some n => [Line.toned n .notice]
  | none, none => []

/-- All lines of the tab, however long. -/
def fullLines (t : Tab) : List Line := t.header :: (t.viewLines ++ t.messageLines)

def render (t : Tab) (width : Nat) : List Line := t.fullLines.map (·.cut width)

end RecordDesk.Tab
