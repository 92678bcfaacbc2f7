import RecordDesk.Number.Numeral
import RecordDesk.Number.Word
import RecordDesk.Text.Quoted
import RecordDesk.Text.Split

/-!
Durations as settings write them: a number of milliseconds, seconds or minutes.
-/

namespace RecordDesk

/-- Why a text is no number of 64 bits. -/
inductive NumberFault where
  | empty
  | digit
  | tooLarge
  deriving DecidableEq

def NumberFault.message : NumberFault → String
  | .empty => "cannot parse integer from empty string"
  | .digit => "invalid digit found in string"
  | .tooLarge => "number too large to fit in target type"

/-- Appends a digit to a number, as long as it fits 64 bits. -/
def NumberFault.addDigit (n : Nat) (c : Char) : Except NumberFault Nat :=
  if !c.isDigit then .error .digit
  else if 2 ^ 64 ≤ 10 * n + Numeral.digitValue c then .error .tooLarge
  else .ok (10 * n + Numeral.digitValue c)

/-- Reads digits, which may follow a plus sign. The first character that does not fit decides the
fault. -/
def word64? : List Char → Except NumberFault Nat
  | [] => .error .empty
  | '+' :: c :: cs => (c :: cs).foldlM NumberFault.addDigit 0
  | cs => cs.foldlM NumberFault.addDigit 0

inductive DurationError where
  | number (raw : String) (e : NumberFault)
  | unit (raw : String)
  deriving DecidableEq

def DurationError.message : DurationError → String
  | .number raw _ => s!"invalid timeout duration {Text.quoted raw}"
  | .unit raw =>
    s!"invalid duration {Text.quoted raw}; use one of: <N>ms, <N>s, <N>m (for example 500ms or 10s)"

def DurationError.cause? : DurationError → Option String
  | .number _ e => some e.message
  | .unit _ => none

namespace Duration

/-- The units with the milliseconds in a number of them, the longer name before the shorter one that ends it. The
seconds of minutes have to fit 64 bits. -/
def units : List (String × (Nat → Option Nat)) :=
  [("ms", some), ("s", fun n => some (1000 * n)), ("m", fun n => (fit64? (60 * n)).map (1000 * ·))]

/-- The number before the first unit that ends a text, and what it counts. -/
def splitUnit (cs : List Char) : Option (List Char × (Nat → Option Nat)) :=
  units.findSome? fun (name, toMilliseconds?) =>
    (Text.before? name.toList cs).map fun digits => (digits, toMilliseconds?)

/-- The milliseconds of a duration. -/
def read (raw : String) : Except (Halt DurationError) Nat :=
  match splitUnit raw.toList with
  | none => .error (.failed (.unit raw))
  | some (digits, toMilliseconds?) =>
    match word64? digits with
    | .error e => .error (.failed (.number raw e))
    | .ok n => (toMilliseconds? n).elim (.error .overflow) .ok

end Duration

end RecordDesk
