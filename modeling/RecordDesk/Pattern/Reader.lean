import RecordDesk.Pattern.Bracket
import RecordDesk.Text.Letter

/-!
Patterns: texts that stand for texts. Parts stand in a row, a bar separates alternatives, parentheses
make groups, and a mark behind a part says how often it may be repeated. Only whether a text is a
pattern matters here.
-/

namespace RecordDesk.Pattern

/-! ## The beginnings of groups -/

def modeLetters : List Char := ['i', 'm', 's', 'U', 'u', 'R', 'x']

/-- Whether a mode is on, after the letters that switch modes on and those that switch them off. -/
def switched (on off : List Char) (letter : Char) (now : Bool) : Bool :=
  on.contains letter || (now && !off.contains letter)

/-- The modes after a list of letters, each of which occurs once. A hyphen stands before those that are
switched off, of which there is one at least. -/
def Modes.change? (m : Modes) (letters : List Char) : Option Modes :=
  let on := letters.takeWhile (· != '-')
  let off := letters.drop (on.length + 1)
  if letters.Nodup ∧ (on ++ off).all modeLetters.contains ∧ letters.getLast? ≠ some '-' then
    some ⟨switched on off 'u' m.unicode, switched on off 'i' m.ignoreCase, switched on off 'x' m.spaced⟩
  else none

def isNameStart (c : Char) : Bool := c == '_' || Text.isLetter c

def isNamePart (c : Char) : Bool := c == '_' || c == '.' || c == '[' || c == ']' || Text.isLetterOrNumeral c

/-- The name of a group up to the angle bracket that closes it, and what follows. -/
def name? (cs : List Char) : Option (List Char × List Char) :=
  let name := cs.takeWhile (· != '>')
  match cs.dropWhile (· != '>') with
  | [] => none
  | _ :: rest => if name.head?.any isNameStart && name.all isNamePart then some (name, rest) else none

/-- What an opening parenthesis begins. -/
inductive Opening where
  /-- New modes for the rest of the group around it. -/
  | modes (m : Modes)
  /-- A group with modes, and perhaps a name. -/
  | group (m : Modes) (name : Option (List Char))
  deriving DecidableEq

/-- Reads on after an opening parenthesis. -/
def opening? (m : Modes) (cs : List Char) : Option (Opening × List Char) :=
  match m.next cs with
  | '?' :: 'P' :: '<' :: cs | '?' :: '<' :: cs => (name? cs).map fun (name, rest) => (.group m (some name), rest)
  | '?' :: cs => do
    let isEnd := fun c => c == ':' || c == ')'
    let letters := cs.takeWhile (!isEnd ·)
    let changed ← m.change? letters
    match cs.dropWhile (!isEnd ·) with
    | ':' :: rest => return (.group changed none, rest)
    | ')' :: rest => if letters.isEmpty then none else return (.modes changed, rest)
    | _ => none
  | cs => some (.group m none, cs)

/-! ## Groups -/

/-- A group that is open, or the whole pattern. -/
structure Group where
  modes : Modes := {}
  /-- How high the alternatives before the row are. -/
  before : Option Nat := none
  row : Row := {}
  /-- How high the last part is, when there is one that can be repeated. -/
  last : Option Nat := none
  deriving DecidableEq

def Group.add (g : Group) (height : Nat) : Group := { g with row := g.row.add height, last := some height }

/-- A change of modes is a part of the row that cannot be repeated. -/
def Group.setModes (g : Group) (m : Modes) : Group := { g with modes := m, row := g.row.add 0, last := none }

/-- A bar ends an alternative. -/
def Group.bar (g : Group) : Group :=
  { g with before := some (max (g.before.getD 0) g.row.height), row := {}, last := none }

/-- A repeated part is one level higher. -/
def Group.repeat? (g : Group) : Option Group :=
  g.last.map fun h => { g with row := { g.row with highest := max g.row.highest (h + 1) }, last := some (h + 1) }

/-- The height of all that has come. -/
def Group.height (g : Group) : Nat :=
  match g.before with
  | none => g.row.height
  | some h => max h g.row.height + 1

/-! ## Patterns -/

/-- A part that stands for itself, and what follows it. -/
def atom? (m : Modes) (c : Char) (cs : List Char) : Option (Atom × List Char) :=
  match c with
  | '\\' => escape? m cs
  | '.' => some (.any, cs)
  | '^' | '$' => some (.edge, cs)
  | c => some (.literal c false, cs)

/-- A question mark behind a repetition only says which match comes first. -/
def dropLazy : List Char → List Char
  | '?' :: cs => cs
  | cs => cs

/-- Reads on in a group, and then in those around it, to the end of the pattern. No two groups have the
same name. A repetition cannot be counted, since the text has no closing brace. Each step takes a
character of the text. -/
def isRest : Nat → List (List Char) → Group → List Group → List Char → Bool
  | 0, _, _, _, _ => false
  | fuel + 1, names, g, outer, cs =>
    match g.modes.next cs with
    | [] => outer.isEmpty && g.height ≤ heightLimit
    | '(' :: cs =>
      match opening? g.modes cs with
      | none => false
      | some (.modes m, rest) => isRest fuel names (g.setModes m) outer rest
      | some (.group m name, rest) =>
        !name.any names.contains && isRest fuel (name.toList ++ names) { modes := m } (g :: outer) rest
    | ')' :: cs =>
      match outer with
      | [] => false
      | o :: outer => isRest fuel names (o.add (g.height + 1)) outer cs
    | '|' :: cs => isRest fuel names g.bar outer cs
    | '[' :: cs =>
      match bracket? g.modes cs with
      | none => false
      | some (height, rest) => isRest fuel names (g.add height) outer rest
    | '?' :: cs | '*' :: cs | '+' :: cs =>
      match g.repeat? with
      | none => false
      | some g => isRest fuel names g outer (dropLazy cs)
    | '{' :: _ => false
    | c :: cs =>
      match atom? g.modes c cs with
      | none => false
      | some (a, rest) => a.fits g.modes && isRest fuel names (g.add 0) outer rest

/-- The text is a pattern. -/
def isPattern (cs : List Char) : Bool := isRest (cs.length + 1) [] {} [] cs

end RecordDesk.Pattern
