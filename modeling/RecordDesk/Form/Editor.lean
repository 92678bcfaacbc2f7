import RecordDesk.Form.Basic

/-!
The editor that takes all keys while a tree is edited as text.
-/

namespace RecordDesk

/-- `field` is the index of the form's field that the text belongs to. -/
structure Editor where
  field : Nat
  label : String
  language : TreeLanguage
  buffer : String
  deriving DecidableEq

namespace Editor

/-- How many keys a text holds, or why it cannot be read. -/
def check (language : TreeLanguage) (buffer : String) : Except String Nat :=
  match language with
  | .metadata => (Metadata.Tree.read buffer).map List.length |>.mapError Metadata.LineError.message
  | .json =>
    (Metadata.Tree.readProperties buffer).map List.length |>.mapError Metadata.PropertiesError.message

def status (e : Editor) : Except String String :=
  (check e.language e.buffer).map fun n => s!"ok ({n} keys)"

/-- Drops what stands after the last line feed. -/
def clearLine (s : String) : String :=
  .ofList (Text.dropEndWhile (· != '\n') s.toList)

def press (e : Editor) (k : Key) : Editor :=
  match k with
  | .enter => { e with buffer := e.buffer.push '\n' }
  | .tab => { e with buffer := e.buffer ++ "  " }
  | .backspace => { e with buffer := Text.dropLast e.buffer }
  | .ctrl 'u' => { e with buffer := clearLine e.buffer }
  | k =>
    match k.printable? with
    | some c => { e with buffer := e.buffer.push c }
    | none => e

end Editor

end RecordDesk
