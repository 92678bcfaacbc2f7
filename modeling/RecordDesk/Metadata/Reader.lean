import RecordDesk.Metadata.Scalar
import RecordDesk.Text.Quoted
import RecordDesk.Text.Split

/-!
Reading metadata text: one `key: value` a line, blocks by two spaces a level under a bare `key:`,
lists of scalars in brackets. The lines are folded into an `Outline`, which holds the tree so far
and the blocks still open; so the first line that does not fit decides the error.
-/

namespace RecordDesk.Metadata

inductive LineFault where
  | oddIndent (spaces : Nat)
  | tabIndent
  | unexpectedIndent
  | listItemLine
  | inlineObject
  | missingColon
  | emptyKey
  | duplicateKey (key : String)
  | unterminatedList
  | nestedList
  | emptyListItem
  deriving DecidableEq

def LineFault.message : LineFault → String
  | .oddIndent n => s!"indentation must be a multiple of 2 spaces (found {n})"
  | .tabIndent => "tabs are not allowed in indentation"
  | .unexpectedIndent => "unexpected indentation; nest only under a `key:` line"
  | .listItemLine => "list items (`- `) are not supported; use inline [a, b] syntax"
  | .inlineObject => "inline objects not supported yet; nest with indentation instead"
  | .missingColon => "expected `key: value` or `key:`"
  | .emptyKey => "key must not be empty"
  | .duplicateKey k => "duplicate key " ++ Text.quoted k
  | .unterminatedList => "list is missing its closing `]`"
  | .nestedList => "lists may only contain scalars"
  | .emptyListItem => "list contains an empty item"

/-- A fault and the number of its line; the first line has number 1. -/
structure LineError where
  line : Nat
  fault : LineFault
  deriving DecidableEq

def LineError.message (e : LineError) : String := s!"line {e.line}: {e.fault.message}"

/-- A line that is not blank, without its indentation and the white space at its end. -/
structure Line where
  number : Nat
  depth : Nat
  content : List Char
  deriving DecidableEq

/-- Measures the indentation of a line; a blank line gives none. -/
def Line.ofText? (number : Nat) (raw : List Char) : Except LineError (Option Line) :=
  let raw := Text.trimmedEnd raw
  let content := raw.dropWhile (· == ' ')
  let spaces := (raw.takeWhile (· == ' ')).length
  match content with
  | [] => .ok none
  | c :: _ =>
    if c = '\t' then .error ⟨number, .tabIndent⟩
    else if spaces % 2 ≠ 0 then .error ⟨number, .oddIndent spaces⟩
    else .ok (some ⟨number, spaces / 2, content⟩)

/-- The lines of a text that are not blank, numbered from `number` on. -/
def Line.listFrom (number : Nat) : List (List Char) → Except LineError (List Line)
  | [] => .ok []
  | raw :: rest => do
    let line ← Line.ofText? number raw
    return line.toList ++ (← Line.listFrom (number + 1) rest)

/-- The items of a list, split at the commas outside quotes; `quote` is the quote now open. -/
def splitItems (quote : Option Char) : List Char → List (List Char)
  | [] => [[]]
  | c :: cs =>
    if quote = none ∧ c = ',' then [] :: splitItems none cs
    else
      let quote := match quote with
        | none => if c = '"' ∨ c = '\'' then some c else none
        | some q => if c = q then none else some q
      match splitItems quote cs with
      | [] => [[c]]
      | item :: items => (c :: item) :: items

def readItem (cs : List Char) : Except LineFault Value :=
  match Text.trimmed cs with
  | [] => .error .emptyListItem
  | c :: rest =>
    if c = '[' ∨ c = '{' then .error .nestedList
    else .ok (readScalar (.ofList (c :: rest)))

/-- What stands between the brackets of a list. -/
def readItems (inner : List Char) : Except LineFault Value :=
  if inner.all Text.isBlank then .ok (.list [])
  else return .list (← (splitItems none inner).mapM readItem)

/-- A value that is not blank, cut of the white space around it. -/
def readValue : List Char → Except LineFault Value
  | '{' :: _ => .error .inlineObject
  | '[' :: rest =>
    if rest.getLast? = some ']' then readItems rest.dropLast else .error .unterminatedList
  | cs => .ok (readScalar (.ofList cs))

/-- The key of a line and the text after the colon, both cut of the white space around them. -/
def Line.entry (line : Line) : Except LineFault (String × List Char) :=
  if line.content = ['-'] ∨ Text.after? ['-', ' '] line.content ≠ none then .error .listItemLine
  else match Text.cutAt ':' line.content with
    | none => .error .missingColon
    | some (rawKey, rawValue) =>
      match Text.trimmed rawKey with
      | [] => .error .emptyKey
      | key => .ok (.ofList key, Text.trimmed rawValue)

/-- The entries read so far. `parents` names the blocks that are open around `entries`, the inner
ones first, each with its key and the entries before it on its own level. -/
structure Outline where
  parents : List (String × Tree)
  entries : Tree

namespace Outline

def empty : Outline := ⟨[], []⟩

/-- Closes the innermost blocks until no more than `depth` are open. -/
def closing (depth : Nat) : List (String × Tree) → Tree → Outline
  | [], t => ⟨[], t⟩
  | p :: ps, t =>
    if ps.length < depth then ⟨p :: ps, t⟩
    else closing depth ps (Keyed.insert p.1 (.tree t) p.2)

def closeTo (o : Outline) (depth : Nat) : Outline := closing depth o.parents o.entries

/-- Adds an entry on the level of the entries, or opens a block under its key. -/
def put (o : Outline) (line : Line) : Except LineFault Outline := do
  let (key, value) ← line.entry
  if Keyed.contains key o.entries then .error (.duplicateKey key)
  else if value.isEmpty then .ok ⟨(key, o.entries) :: o.parents, []⟩
  else return ⟨o.parents, Keyed.insert key (← readValue value) o.entries⟩

/-- Adds a line, which may go one level deeper only right after a block was opened. -/
def add (o : Outline) (line : Line) : Except LineError Outline :=
  if o.parents.length < line.depth then .error ⟨line.number, .unexpectedIndent⟩
  else ((o.closeTo line.depth).put line).mapError (⟨line.number, ·⟩)

def toTree (o : Outline) : Tree := (o.closeTo 0).entries

end Outline

/-- The tree that a metadata text describes. Faults of indentation come before all others. -/
def Tree.read (s : String) : Except LineError Tree := do
  let lines ← Line.listFrom 1 (Text.lineList s.toList)
  return (← lines.foldlM Outline.add .empty).toTree

end RecordDesk.Metadata
