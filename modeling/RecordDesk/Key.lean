import RecordDesk.Text.Blank

/-!
Key presses, one at a time.
-/

namespace RecordDesk

inductive Key where
  | char (c : Char)
  | ctrl (c : Char)
  | up
  | down
  | left
  | right
  | enter
  | esc
  | backspace
  | delete
  | tab
  | backTab
  deriving DecidableEq

/-- The character that a key types. Control characters type nothing. -/
def Key.printable? : Key → Option Char
  | .char c => if Text.isControl c then none else some c
  | _ => none

end RecordDesk
