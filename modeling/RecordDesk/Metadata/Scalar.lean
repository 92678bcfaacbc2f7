import RecordDesk.Metadata.Value
import RecordDesk.Number.Shortest
import RecordDesk.Text.Blank
import RecordDesk.Text.Lower

/-!
Scalars of the metadata language. A bare token is a truth value, null, an integer, a real or a text,
in that order; quotes make a text of anything.
-/

namespace RecordDesk.Metadata

/-- Places from -4 to 15 are written positionally, and only negative exponents carry a sign. -/
def realFormat : RealFormat := ⟨-4, 15, [], .up⟩

/-- A double as metadata text, with words for what has no decimal. -/
def writeReal (x : Binary64) : List Char :=
  if x.isFinite then realFormat.write x
  else if x.isNaN then "NaN".toList
  else if x.isNegative then "-inf".toList
  else "inf".toList

def readInt? (cs : List Char) : Option Int64 :=
  match Numeral.signed? cs with
  | none => none
  | some n => if -2 ^ 63 ≤ n ∧ n < 2 ^ 63 then some (Int64.ofInt n) else none

/-- An exponent mark with its digits, or nothing at all. -/
def readExponent? : List Char → Option Int
  | [] => some 0
  | c :: cs =>
    if c = 'e' ∨ c = 'E' then Numeral.signed? cs else none

/-- A real without its sign: digits with a point anywhere, at least one of them, and an exponent. -/
def readMagnitude? (negative : Bool) (cs : List Char) : Option Binary64 :=
  let whole := cs.takeWhile Char.isDigit
  let (fractional, rest) := match cs.dropWhile Char.isDigit with
    | '.' :: ds => (ds.takeWhile Char.isDigit, ds.dropWhile Char.isDigit)
    | ds => ([], ds)
  let digits := whole ++ fractional
  if digits.isEmpty then none
  else (readExponent? rest).map fun e =>
    .ofDecimal negative (Numeral.value digits) (e - fractional.length)

def readReal? : List Char → Option Binary64
  | '-' :: cs => readMagnitude? true cs
  | '+' :: cs => readMagnitude? false cs
  | cs => readMagnitude? false cs

def isNumberChar (c : Char) : Bool :=
  c.isDigit || c == '.' || c == '-' || c == '+' || c == 'e' || c == 'E'

/-- At least one digit, and nothing that a real could not hold. -/
def looksNumeric (cs : List Char) : Bool := cs.any Char.isDigit && cs.all isNumberChar

/-- What a pair of equal quotes encloses. -/
def unquoted? : List Char → Option (List Char)
  | [] => none
  | q :: cs =>
    if (q = '"' ∨ q = '\'') ∧ cs.getLast? = some q then some cs.dropLast else none

/-- The words for truth values and null, in any case. -/
def readWord? (token : String) : Option Value :=
  match Text.asciiLower token with
  | "true" => some (.bool true)
  | "false" => some (.bool false)
  | "null" => some .null
  | "nil" => some .null
  | _ => none

/-- A real too large for a double stays a text. -/
def readNumber? (cs : List Char) : Option Value :=
  match readInt? cs with
  | some n => some (.int n)
  | none =>
    if looksNumeric cs then
      match readReal? cs with
      | some x => if x.isFinite then some (.real x) else none
      | none => none
    else none

def readScalar (token : String) : Value :=
  match readWord? token with
  | some v => v
  | none =>
    match readNumber? token.toList with
    | some v => v
    | none =>
      match unquoted? token.toList with
      | some inner => .text (.ofList inner)
      | none => .text token

/-- The text would not be read back as itself. -/
def needsQuotes (inList : Bool) (s : String) : Bool :=
  s.isEmpty || Text.trim s != s || !(readScalar s).same (.text s) ||
    (match s.toList with
      | [] => false
      | c :: _ => c == '[' || c == '{' || c == '"' || c == '\'') ||
    (inList && s.toList.any fun c => c == ',' || c == ']')

/-- Single quotes for a text that holds double quotes and no single ones, double quotes otherwise. -/
def quote (s : String) : String :=
  if s.toList.contains '"' && !s.toList.contains '\'' then "'" ++ s ++ "'" else "\"" ++ s ++ "\""

end RecordDesk.Metadata
