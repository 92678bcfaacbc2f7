import RecordDesk.Metadata.Scalar
import RecordDesk.Pattern.Reader
import RecordDesk.Text.Split

/-!
Log filters: directives between commas, each of which names a level, or a target, a span and a field of
it with a level for them. Only whether a filter can be read matters here.
-/

namespace RecordDesk

inductive LogFilterError where
  | directive
  | level
  /-- The value that a field should have cannot be read. -/
  | field
  deriving DecidableEq

/-- The messages of an error: what is wrong with the filter, and what lies behind it. -/
def LogFilterError.messages : LogFilterError → List String
  | .directive => ["invalid filter directive"]
  | .level =>
    let message :=
      "error parsing level filter: expected one of \"off\", \"error\", \"warn\", \"info\", \"debug\", \"trace\", " ++
        "or a number 0-5"
    [message, message]
  | .field => ["invalid field filter: error building NFA", "error building NFA"]

namespace LogFilter

/-! ## Levels and fields -/

def levelNames : List String := ["off", "error", "warn", "info", "debug", "trace"]

/-- A level by its name in any case, or by a number up to five; no text at all is one, too. -/
def isLevel (cs : List Char) : Bool :=
  cs.isEmpty || levelNames.any (fun s => s.toList == cs.map Char.toLower) || (Numeral.unsigned? cs).any (· ≤ 5)

/-- Words for what is no finite number, after an optional sign and in any case. -/
def isNonfinite (cs : List Char) : Bool :=
  let word := match cs with
    | '+' :: cs | '-' :: cs => cs
    | cs => cs
  ["inf", "infinity", "nan"].any fun s => s.toList == word.map Char.toLower

/-- A number, or a pattern that a text has to match. Truth values are patterns, too. -/
def isFieldValue (cs : List Char) : Bool :=
  (Metadata.readReal? cs).isSome || isNonfinite cs || Pattern.isPattern cs

/-- A field by its name, which may be followed by a value up to a further equals sign. -/
def checkField (cs : List Char) : Except LogFilterError Unit :=
  match Text.pieces (· == '=') cs with
  | _ :: v :: _ => if isFieldValue v then .ok () else .error .field
  | _ => if cs.isEmpty then .error .directive else .ok ()

/-! ## Directives -/

/-- What part of a directive is being read, and where it began. -/
inductive Part where
  | start
  | levelOrTarget (first : Nat)
  | span (first : Nat)
  | field (first : Nat)
  | fields
  | target
  | level (first : Nat)
  deriving DecidableEq

/-- Names may begin with letters, numerals and a few marks. -/
def isNameStart (c : Char) : Bool := c == '-' || c == ':' || c == '_' || Text.isLetterOrNumeral c

/-- The characters of a text from one place to another, where places are counted in bytes. -/
def slice (first last : Nat) : List Char → List Char
  | [] => []
  | c :: cs =>
    let rest := slice (first - c.utf8Size) (last - c.utf8Size) cs
    if first = 0 ∧ last ≠ 0 then c :: rest else rest

/-- One more character, at a place. The text of a field is cut out of the directive there. -/
def Part.step (directive : List Char) (part : Part) (place : Nat) (c : Char) : Except LogFilterError Part :=
  match part with
  | .start =>
    if c = '[' then .ok (.span (place + 1))
    else if isNameStart c then .ok (.levelOrTarget place)
    else .error .directive
  | .levelOrTarget first =>
    if c = '=' then .ok (.level (place + 1))
    else if c = '[' then .ok (.span (place + 1))
    else .ok (.levelOrTarget first)
  | .target => if c = '=' then .ok (.level (place + 1)) else .error .directive
  | .span first =>
    if c = ']' then .ok .target else if c = '{' then .ok (.field (place + 1)) else .ok (.span first)
  | .field first =>
    if c = '}' then (checkField (slice first place directive)).map fun _ => .fields else .ok (.field first)
  | .fields => if c = ']' then .ok .target else .error .directive
  | .level first => .ok (.level first)

/-- Reads characters from a place on. -/
def Part.run (directive : List Char) (part : Part) (place : Nat) : List Char → Except LogFilterError Part
  | [] => .ok part
  | c :: cs => (part.step directive place c).bind fun next => next.run directive (place + c.utf8Size) cs

/-- Blanks around a directive do not count as characters of it; but fields and levels are cut out of the
text with its blanks, at the same places. -/
def checkDirective (cs : List Char) : Except LogFilterError Unit := do
  match ← Part.start.run cs 0 (Text.trimmed cs) with
  | .levelOrTarget _ | .target => .ok ()
  | .level first => if isLevel (slice first (String.ofList cs).utf8ByteSize cs) then .ok () else .error .level
  | _ => .error .directive

/-- All directives can be read. -/
def check (s : String) : Except LogFilterError Unit :=
  ((Text.pieces (· == ',') s.toList).filter (!·.isEmpty)).forM checkDirective

end LogFilter

end RecordDesk
