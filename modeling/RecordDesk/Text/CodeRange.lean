/-!
Tables over code points: sets as lists of ranges, and maps as lists of runs or of blocks.
-/

namespace RecordDesk.Text

/-- All code points from `first` to `last`. -/
structure CodeRange where
  first : Nat
  last : Nat

def CodeRange.covers (r : CodeRange) (n : Nat) : Bool := r.first ≤ n && n ≤ r.last

def inRanges (rs : List CodeRange) (c : Char) : Bool := rs.any (·.covers c.toNat)

/-- Every `step`-th code point from `first` to `last`, each of which moves by `shift`. -/
structure CodeShift where
  first : Nat
  last : Nat
  step : Nat
  shift : Int

def CodeShift.covers (r : CodeShift) (n : Nat) : Bool :=
  r.first ≤ n && n ≤ r.last && (n - r.first) % r.step == 0

/-- Where a character moves, when a run covers it. -/
def shifted? (rs : List CodeShift) (c : Char) : Option Char :=
  (rs.find? (·.covers c.toNat)).map fun r => Char.ofNat ((c.toNat : Int) + r.shift).toNat

/-- The forms of the code points from `first` on, one after the other. -/
structure CodeForms where
  first : Nat
  forms : List (List Nat)

def CodeForms.get? (b : CodeForms) (n : Nat) : Option (List Nat) :=
  if b.first ≤ n then b.forms[n - b.first]? else none

/-- The form of a character, when a block holds it. -/
def form? (bs : List CodeForms) (c : Char) : Option (List Char) :=
  (bs.findSome? (·.get? c.toNat)).map (·.map Char.ofNat)

end RecordDesk.Text
