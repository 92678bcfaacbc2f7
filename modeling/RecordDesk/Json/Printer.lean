import RecordDesk.Json.Value
import RecordDesk.Number.Shortest

/-!
JSON text, either on one line without blanks or with one entry a line and two spaces a level.
-/

namespace RecordDesk.Json

/-- Places from -5 to 15 are written positionally, and exponents carry their sign. -/
def realFormat : RealFormat := ⟨-5, 15, ['+'], .toEven⟩

def escapedChar (c : Char) : List Char :=
  if c = '"' then ['\\', '"']
  else if c = '\\' then ['\\', '\\']
  else if c = '\x08' then ['\\', 'b']
  else if c = '\x0c' then ['\\', 'f']
  else if c = '\n' then ['\\', 'n']
  else if c = '\r' then ['\\', 'r']
  else if c = '\t' then ['\\', 't']
  else if c.toNat < 0x20 then
    ['\\', 'u', '0', '0', Nat.digitChar (c.toNat / 16), Nat.digitChar (c.toNat % 16)]
  else [c]

def quotedText (s : String) : String := .ofList ('"' :: (s.toList.flatMap escapedChar ++ ['"']))

def scalarText : Json → String
  | null => "null"
  | bool true => "true"
  | bool false => "false"
  | int n => .ofList (Numeral.ofInt n)
  | real x => if x.isFinite then .ofList (realFormat.write x) else "null"
  | text s => quotedText s
  | array _ => "[]"
  | object _ => "\x7b\x7d"

mutual

def compact : Json → String
  | array items => "[" ++ compactItems items ++ "]"
  | object entries => "\x7b" ++ compactEntries entries ++ "\x7d"
  | v => scalarText v

def compactItems : List Json → String
  | [] => ""
  | [v] => compact v
  | v :: vs => compact v ++ "," ++ compactItems vs

def compactEntries : List (String × Json) → String
  | [] => ""
  | [(k, v)] => quotedText k ++ ":" ++ compact v
  | (k, v) :: es => quotedText k ++ ":" ++ compact v ++ "," ++ compactEntries es

end

/-- A line break and the indentation of a level. -/
def lineBreak (depth : Nat) : String := .ofList ('\n' :: List.replicate (2 * depth) ' ')

mutual

/-- The indented text of a value that stands at a level. -/
def prettyAt (depth : Nat) : Json → String
  | array (v :: vs) => "[" ++ prettyItems (depth + 1) (v :: vs) ++ lineBreak depth ++ "]"
  | object (e :: es) => "\x7b" ++ prettyEntries (depth + 1) (e :: es) ++ lineBreak depth ++ "\x7d"
  | v => scalarText v

def prettyItems (depth : Nat) : List Json → String
  | [] => ""
  | [v] => lineBreak depth ++ prettyAt depth v
  | v :: vs => lineBreak depth ++ prettyAt depth v ++ "," ++ prettyItems depth vs

def prettyEntries (depth : Nat) : List (String × Json) → String
  | [] => ""
  | [(k, v)] => lineBreak depth ++ quotedText k ++ ": " ++ prettyAt depth v
  | (k, v) :: es =>
    lineBreak depth ++ quotedText k ++ ": " ++ prettyAt depth v ++ "," ++ prettyEntries depth es

end

def pretty (v : Json) : String := prettyAt 0 v

end RecordDesk.Json
