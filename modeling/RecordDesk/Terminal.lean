import RecordDesk.Key
import RecordDesk.View.Line

/-!
The edge to the terminal: which key a key event stands for, how many list rows a screen has room
for, and how tones look.
-/

namespace RecordDesk.Terminal

/-- The keys that a terminal reports. -/
inductive KeyCode where
  | char (c : Char)
  | up
  | down
  | left
  | right
  | enter
  | esc
  | backspace
  | delete
  | tab
  | backTab
  | other
  deriving DecidableEq

structure KeyEvent where
  code : KeyCode
  ctrl : Bool
  shift : Bool
  released : Bool

/-- The key that was pressed. Releasing a key is no press. -/
def KeyEvent.key? (e : KeyEvent) : Option Key :=
  if e.released then none
  else match e.code with
    | .char c => some (if e.ctrl then .ctrl c.toLower else .char c)
    | .up => some .up
    | .down => some .down
    | .left => some .left
    | .right => some .right
    | .enter => some .enter
    | .esc => some .esc
    | .backspace => some .backspace
    | .delete => some .delete
    | .tab => some (if e.shift then .backTab else .tab)
    | .backTab => some .backTab
    | .other => none

/-- Rows that are not list rows: the tab bar, the status line, the borders of the body, and the
header, toggle, search and message lines. -/
def chromeRows : Nat := 3 + 2 + 2 + 4

def listRows (height : Nat) : Nat := max (height - chromeRows) 1

inductive Color where
  | black
  | red
  | green
  | yellow
  | cyan
  | darkGray
  deriving DecidableEq

def Color.name : Color → String
  | black => "black"
  | red => "red"
  | green => "green"
  | yellow => "yellow"
  | cyan => "cyan"
  | darkGray => "darkgray"

structure Style where
  foreground : Option Color := none
  background : Option Color := none
  bold : Bool := false
  italic : Bool := false

def style : Tone → Style
  | .normal => {}
  | .header => { foreground := some .cyan, bold := true }
  | .selected => { foreground := some .black, background := some .cyan, bold := true }
  | .marked => { foreground := some .yellow }
  | .dim => { foreground := some .darkGray }
  | .error => { foreground := some .red, bold := true }
  | .notice => { foreground := some .green }
  | .hint => { foreground := some .darkGray, italic := true }

end RecordDesk.Terminal
