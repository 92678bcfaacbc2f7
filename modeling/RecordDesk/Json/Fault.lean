/-!
What is wrong with a text that is no JSON, and where. Columns are counted in bytes.
-/

namespace RecordDesk.Json

inductive FaultCode where
  | unfinishedList
  | unfinishedObject
  | unfinishedText
  | unfinishedValue
  | colon
  | listEnd
  | objectEnd
  | word
  | value
  | escape
  | number
  | outOfRange
  | control
  | key
  | loneSurrogate
  | openSurrogate
  | trailingComma
  | trailingCharacters
  | depth
  deriving DecidableEq

def FaultCode.message : FaultCode → String
  | .unfinishedList => "EOF while parsing a list"
  | .unfinishedObject => "EOF while parsing an object"
  | .unfinishedText => "EOF while parsing a string"
  | .unfinishedValue => "EOF while parsing a value"
  | .colon => "expected `:`"
  | .listEnd => "expected `,` or `]`"
  | .objectEnd => "expected `,` or `\x7d`"
  | .word => "expected ident"
  | .value => "expected value"
  | .escape => "invalid escape"
  | .number => "invalid number"
  | .outOfRange => "number out of range"
  | .control => "control character (\\u0000-\\u001F) found while parsing a string"
  | .key => "key must be a string"
  | .loneSurrogate => "lone leading surrogate in hex escape"
  | .openSurrogate => "unexpected end of hex escape"
  | .trailingComma => "trailing comma"
  | .trailingCharacters => "trailing characters"
  | .depth => "recursion limit exceeded"

structure Fault where
  code : FaultCode
  line : Nat
  column : Nat
  deriving DecidableEq

def Fault.message (f : Fault) : String := s!"{f.code.message} at line {f.line} column {f.column}"

/-- The line and the column after so many bytes of a text that goes on from a line and a column. -/
def position (line column : Nat) : Nat → List Char → Nat × Nat
  | 0, _ => (line, column)
  | _, [] => (line, column)
  | n + 1, c :: cs =>
    if c = '\n' then position (line + 1) 0 n cs
    else if n + 1 ≤ c.utf8Size then (line, column + (n + 1))
    else position line (column + c.utf8Size) (n + 1 - c.utf8Size) cs

/-- A fault after so many bytes of a text. -/
def Fault.after (bytes : Nat) (cs : List Char) (code : FaultCode) : Fault :=
  let (line, column) := position 1 0 bytes cs
  ⟨code, line, column⟩

end RecordDesk.Json
