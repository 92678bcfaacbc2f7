import RecordDesk.Desk
import RecordDesk.Text.Columns
import RecordDesk.View.Render

/-!
The whole screen as rows of cells: tab titles in a box, the active tab in a box, the status line
under a rule.
-/

namespace RecordDesk

namespace Desk

def tabTitle (d : Desk) (k : Kind) : String :=
  let t := d.tab k
  k.label ++ (if t.marks.isEmpty then "" else s!" ({t.marks.size})") ++
    (if t.requests.anyPending then " …" else if t.error.isSome then " !" else "")

/-- The keys that mean something in the active view. -/
def viewHints (t : Tab) : String :=
  let c := t.capabilities
  let list :=
    if c.bulkScopes then
      "enter open | type search | tab accept | space mark | ctrl+b tags | ctrl+g scopes | ctrl+a archived | ctrl+r reload"
    else if c.bulkTags then
      "enter open | type search | tab accept | space mark | ctrl+b tags | ctrl+a archived | ctrl+r reload"
    else "enter open | type search | tab accept | ctrl+a archived | ctrl+r reload"
  let form := "tab/shift+tab fields | enter editor | ctrl+s save | esc cancel"
  if t.editor?.isSome then "enter newline | tab indent | ctrl+u clear line | esc close"
  else match t.view with
    | .list => list
    | .search => list
    | .detail =>
      if c.revert then "r revert | esc back"
      else if c.archive then "e edit | a archive | esc back"
      else "e edit | esc back"
    | .add => form
    | .edit => form
    | .confirm _ _ _ => "y confirm | n cancel"
    | .bulkPrompt _ => "enter apply | esc cancel"
    | .relate _ => "type filter | up/down move | enter pick | esc back"

def statusText (d : Desk) : String :=
  let hints := viewHints d.activeTab ++ " | ctrl+n/ctrl+p tabs | ctrl+q quit"
  match d.statusLine with
  | some s => s ++ " | " ++ hints
  | none => hints

end Desk

namespace Screen

/-- A cluster of characters, and how many cells it takes. -/
structure Glyph where
  chars : List Char
  width : Nat

/-- The clusters of a text that show: a line feed does not, and what takes no cell does not either. -/
def glyphs (s : String) : List Glyph :=
  (((Text.clusters s.toList).filter (· ≠ ['\n'])).map fun g => ⟨g, Text.columns g⟩).filter (·.width ≠ 0)

/-- As many glyphs as fit into the free cells of a row, and the cells left free. A glyph wider than the
whole row is passed over. -/
def fitting (width : Nat) : Nat → List Glyph → List Char × Nat
  | free, [] => ([], free)
  | free, g :: gs =>
    if width < g.width then fitting width free gs
    else if g.width ≤ free then
      let (cs, rest) := fitting width (free - g.width) gs
      (g.chars ++ List.replicate (g.width - 1) ' ' ++ cs, rest)
    else ([], free)

/-- Glyphs in a row of exactly `width` cells, the free ones filled. -/
def filled (width : Nat) (fill : Char) (gs : List Glyph) : List Char :=
  let (cs, free) := fitting width width gs
  cs ++ List.replicate free fill

/-- A text in a row. -/
def row (width : Nat) (fill : Char) (s : String) : List Char := filled width fill (glyphs s)

/-- A toned line in a row. No cluster reaches across two spans. -/
def lineRow (width : Nat) (l : Line) : List Char :=
  filled width ' ' (l.spans.flatMap fun s => glyphs s.text)

/-- Rows between an upper and a lower border, under a title on the upper one. -/
def box (width : Nat) (title : String) (rows : List (List Char)) : List (List Char) :=
  [['┌'] ++ row (width - 2) '─' title ++ ['┐']] ++
    (rows.map fun r => ['│'] ++ r ++ ['│']) ++
    [['└'] ++ List.replicate (width - 2) '─' ++ ['┘']]

def tabRow (d : Desk) : String :=
  Text.joinWith "│" (Kind.all.map fun k => " " ++ d.tabTitle k ++ " ")

/-- The rows of the active tab, as many as there is room for. -/
def bodyRows (d : Desk) (width height : Nat) : List (List Char) :=
  let rows := ((d.activeTab.render width).take height).map (lineRow width)
  rows ++ List.replicate (height - rows.length) (List.replicate width ' ')

/-- The status line has room for the first line of its text. -/
def statusRow (d : Desk) (width : Nat) : List Char :=
  row width ' ' ((Text.lines d.statusText).head?.getD "")

/-- A screen of at least 10 rows and 40 columns. -/
def draw (d : Desk) (width height : Nat) : List String :=
  (box width "recdesk" [row (width - 2) ' ' (tabRow d)] ++
    box width "" (bodyRows d (width - 2) (height - 7)) ++
    [List.replicate width '─', statusRow d width]).map .ofList

end Screen

end RecordDesk
