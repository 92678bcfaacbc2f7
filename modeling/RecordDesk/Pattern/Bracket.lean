import RecordDesk.Pattern.Atom
import RecordDesk.Pattern.Outline

/-!
Brackets: sets of characters, given by single characters, ranges, names and further brackets. Operators
between such rows take what both have, what only the first has, or what only one of them has.
-/

namespace RecordDesk.Pattern

/-! ## What stands in brackets -/

/-- In brackets, an atom is a character or a sort. Bytes above the ASCII range are refused there. -/
def Atom.fitsBracket (m : Modes) : Atom → Bool
  | .literal c _ => if m.unicode then !m.ignoreCase else c.toNat < 0x80
  | .sort negated => Atom.fits m (.sort negated)
  | _ => false

def setNames : List String :=
  ["alnum", "alpha", "ascii", "blank", "cntrl", "digit", "graph", "lower", "print", "punct", "space", "upper",
    "word", "xdigit"]

/-- A set by its name between colons, after the bracket that opens it: whether it is negated, and what
follows it. -/
def namedSet? : List Char → Option (Bool × List Char)
  | ':' :: cs =>
    let (negated, cs) := match cs with
      | '^' :: cs => (true, cs)
      | _ => (false, cs)
    match cs.dropWhile (· != ':') with
    | ':' :: ']' :: rest =>
      if setNames.contains (.ofList (cs.takeWhile (· != ':'))) then some (negated, rest) else none
    | _ => none
  | _ => none

/-- Named sets are sets of characters or, among bytes, of those of the ASCII range. -/
def fitsNamed (m : Modes) (negated : Bool) : Bool := if m.unicode then !m.ignoreCase else !negated

/-- A character stands for itself, but a backslash for what follows it. -/
def item? (m : Modes) : List Char → Option (Atom × List Char)
  | [] => none
  | '\\' :: cs => escape? m cs
  | c :: cs => some (.literal c false, cs)

/-- Ranges go up, from one character to another. -/
def isRange : Atom → Atom → Bool
  | .literal a _, .literal b _ => a ≤ b
  | _, _ => false

/-- Drops an item, or a range between two. A hyphen before the closing bracket or before another hyphen
makes no range. -/
def afterItem? (m : Modes) (cs : List Char) : Option (List Char) := do
  let (a, cs) ← item? m cs
  guard (a.fitsBracket m)
  match m.next cs with
  | '-' :: rest =>
    match m.next rest with
    | '-' :: _ | ']' :: _ => return m.next cs
    | rest => do
      let (b, rest) ← item? m rest
      guard (b.fitsBracket m && isRange a b)
      return rest
  | rest => return rest

/-! ## Brackets in brackets -/

/-- A bracket that is open. -/
structure Bracket where
  /-- How high the operators before the row are. -/
  before : Option Nat := none
  row : Row := {}
  /-- Nothing but hyphens has come yet. -/
  isFresh : Bool := true
  deriving DecidableEq

def Bracket.add (b : Bracket) (height : Nat) : Bracket := { b with row := b.row.add height, isFresh := false }

/-- The height of all that has come. -/
def Bracket.height (b : Bracket) : Nat :=
  match b.before with
  | none => b.row.height
  | some h => max h b.row.height + 1

/-- An operator begins a new row. -/
def Bracket.operator (b : Bracket) : Bracket := ⟨some b.height, {}, false⟩

/-- A hyphen at the beginning stands for itself, and so does a closing bracket that comes first of all. -/
def Bracket.takesAsItself (b : Bracket) (c : Char) : Bool := b.isFresh && (c == '-' || (c == ']' && b.row.size == 0))

/-- Drops the mark of a negated bracket. Bytes have no negated ones. -/
def afterOpening? (m : Modes) (cs : List Char) : Option (List Char) :=
  match m.next cs with
  | '^' :: rest => if m.unicode then some rest else none
  | rest => some rest

/-- Reads on in a bracket, and then in those around it, to the end of the outermost: its height, and what
follows it. Each step takes a character of the text. -/
def bracketRest? (m : Modes) : Nat → Bracket → List Bracket → List Char → Option (Nat × List Char)
  | 0, _, _, _ => none
  | fuel + 1, b, outer, cs =>
    match m.next cs with
    | [] => none
    | c :: cs =>
      if b.takesAsItself c then
        if Atom.fitsBracket m (.literal c false) then
          bracketRest? m fuel { b.add 0 with isFresh := c == '-' } outer cs
        else none
      else if c = ']' then
        match outer with
        | [] => some (b.height + 1, cs)
        | o :: outer => bracketRest? m fuel (o.add (b.height + 1)) outer cs
      else if (c = '&' ∨ c = '-' ∨ c = '~') ∧ cs.head? = some c then
        bracketRest? m fuel b.operator outer cs.tail
      else if c = '[' then
        match namedSet? cs with
        | some (negated, rest) =>
          if fitsNamed m negated then bracketRest? m fuel (b.add 0) outer rest else none
        | none => (afterOpening? m cs).bind fun rest => bracketRest? m fuel {} (b :: outer) rest
      else (afterItem? m (c :: cs)).bind fun rest => bracketRest? m fuel (b.add 0) outer rest

/-- The bracket whose opening mark stands before the text: its height, and what follows it. -/
def bracket? (m : Modes) (cs : List Char) : Option (Nat × List Char) :=
  (afterOpening? m cs).bind fun rest => bracketRest? m (rest.length + 1) {} [] rest

end RecordDesk.Pattern
