import RecordDesk.Text.Composed
import RecordDesk.Text.Direction
import RecordDesk.Text.Joining
import RecordDesk.Text.Quoted
import RecordDesk.Web.NameForms
import RecordDesk.Web.Punycode

/-!
Domain names in any script. A name is brought into one form first: small letters, composed, without what
does not show. Its labels, the parts between the dots, have to be such that they look like nothing else;
a label in its ASCII form stands for the label that it encodes.
-/

namespace RecordDesk.Web.Domain

/-! ## The form of a name -/

/-- What a name has for a character. -/
def form (c : Char) : List Char :=
  if c.toNat < 0x80 then [c.toLower]
  else if Text.inRanges skippedRanges c then []
  else match Text.shifted? nameShifts c with
    | some d => [d]
    | none => (Text.form? nameForms c).getD [c]

def normalized (cs : List Char) : List Char := Text.composed (cs.flatMap form)

/-! ## Labels -/

/-- Characters that stand in no name. The two joiners may, where they have a place. -/
def isRefused (c : Char) : Bool :=
  0x80 ≤ c.toNat && c != Text.joiner && c != Text.nonJoiner &&
    (Text.isUnprintable c || Text.inRanges refusedRanges c)

def isMark (c : Char) : Bool := Text.inRanges Text.nonspacingRanges c || Text.inRanges Text.spacingMarkRanges c

/-- No character is refused, no mark comes first, and all joiners have their place. -/
def isLabel (cs : List Char) : Bool :=
  cs.all (!isRefused ·) && !cs.head?.any isMark && Text.joinersFit cs

/-- What a label in its ASCII form begins with. -/
def codeMark : List Char := ['x', 'n', '-', '-']

/-- The label that an ASCII form stands for. It needs one, and has the form of a name already. -/
def decodedLabel? (code : List Char) : Option (List Char) := do
  let label ← Punycode.decode? code
  guard (label.any (0x80 ≤ ·.toNat) && normalized label == label && !codeMark.isPrefixOf label)
  return label

/-- The label of a part of a name. -/
def label? (cs : List Char) : Option (List Char) :=
  ((match Text.after? codeMark cs with
    | some code => decodedLabel? code
    | none => some cs) : Option (List Char)).filter isLabel

/-! ## Names -/

def labels? (name : List Char) : Option (List (List Char)) := (Text.pieces (· == '.') name).mapM label?

/-- All labels can be read, and they read the same in either direction when one of them turns. -/
def isName (name : List Char) : Bool :=
  match labels? name with
  | none => false
  | some labels => !labels.any Text.turns || labels.all Text.isStable

end RecordDesk.Web.Domain
