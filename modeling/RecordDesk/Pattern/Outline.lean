/-!
How deep the parts of a pattern lie. A row of two or more parts is one level above the highest of them;
a part alone is no row.
-/

namespace RecordDesk.Pattern

/-- How many parts a row has, and how high the highest is. -/
structure Row where
  size : Nat := 0
  highest : Nat := 0
  deriving DecidableEq

def Row.add (r : Row) (height : Nat) : Row := ⟨r.size + 1, max r.highest height⟩

def Row.height (r : Row) : Nat := if r.size ≤ 1 then r.highest else r.highest + 1

/-- Patterns lie at most so deep. -/
def heightLimit : Nat := 250

end RecordDesk.Pattern
