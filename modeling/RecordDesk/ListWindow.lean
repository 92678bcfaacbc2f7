/-!
A list of labels with one selected, seen through a window that follows the selection.
-/

namespace RecordDesk

structure ListWindow where
  labels : List String
  selection : Nat
  start : Nat
  height : Nat
  deriving DecidableEq

namespace ListWindow

/-- An empty list; a window shows at least one row. -/
def ofHeight (height : Nat) : ListWindow := ⟨[], 0, 0, max height 1⟩

def defaultHeight : Nat := 12

instance : Inhabited ListWindow := ⟨ofHeight defaultHeight⟩

def size (w : ListWindow) : Nat := w.labels.length

/-- The last start that leaves no row below the list. -/
def maxStart (w : ListWindow) : Nat := w.size - w.height

/-- Moves the window as little as shows the selection. -/
def follow (w : ListWindow) : ListWindow :=
  let start :=
    if w.selection < w.start then w.selection
    else if w.start + w.height ≤ w.selection then w.selection + 1 - w.height
    else w.start
  { w with start := min start w.maxStart }

/-- Brings selection and window back into the list. -/
def clamp (w : ListWindow) : ListWindow :=
  if w.labels.isEmpty then { w with selection := 0, start := 0 }
  else { w with selection := min w.selection (w.size - 1), start := min w.start w.maxStart }.follow

def setItems (w : ListWindow) (labels : List String) : ListWindow := { w with labels }.clamp

def setHeight (w : ListWindow) (height : Nat) : ListWindow := { w with height := max height 1 }.clamp

def select (w : ListWindow) (index : Nat) : ListWindow := { w with selection := index }.clamp

def up (w : ListWindow) : ListWindow :=
  if w.labels.isEmpty then w else { w with selection := w.selection - 1 }.follow

def down (w : ListWindow) : ListWindow :=
  if w.labels.isEmpty then w
  else { w with selection := min (w.selection + 1) (w.size - 1) }.follow

/-- The index of the selected label in the whole list. -/
def selected? (w : ListWindow) : Option Nat := if w.labels.isEmpty then none else some w.selection

def isSelected (w : ListWindow) (index : Nat) : Bool := w.selected? == some index

/-- The labels in the window. -/
def visible (w : ListWindow) : List String := (w.labels.drop w.start).take w.height

end ListWindow

end RecordDesk
