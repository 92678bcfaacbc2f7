import RecordDesk.Json.Fault
import RecordDesk.Json.Value
import RecordDesk.Number.Numeral

/-!
Reading JSON numbers. Whole numbers that fit 64 bits are exact. Any other number becomes a double in
two steps: its leading digits, as many as 64 bits hold, are rounded to a double, which is then
multiplied or divided by the double nearest to a power of ten. A number above all doubles is
refused.
-/

namespace RecordDesk.Json

/-- Digits collected while they fit 64 bits. -/
structure Significand where
  value : Nat
  taken : Nat
  full : Bool

def Significand.add (s : Significand) (c : Char) : Significand :=
  let v := 10 * s.value + Numeral.digitValue c
  if s.full || 2 ^ 64 ≤ v then ⟨s.value, s.taken, true⟩ else ⟨v, s.taken + 1, false⟩

/-- The whole and the fractional digits of a number, and its exponent, as they are written. -/
structure NumberParts where
  negative : Bool
  whole : List Char
  fractional : Option (List Char)
  exponent : Option Int

/-- All digits of a number are zeros. -/
def NumberParts.isZero (p : NumberParts) : Bool :=
  p.whole.all (· == '0') && (p.fractional.getD []).all (· == '0')

def powerOfTen (e : Nat) : Binary64 := .nearest false (10 ^ e) 1

/-- A positive double times a power of ten, in steps of at most 308 places. Three steps bring every
64-bit significand to zero. -/
def scale : Nat → Binary64 → Int → Option Binary64
  | 0, x, _ => some x
  | steps + 1, x, e =>
    if x.isZero then some x
    else if 308 < e then none
    else if 0 ≤ e then
      let y := Binary64.product false x (powerOfTen e.toNat)
      if y.isFinite then some y else none
    else if -308 ≤ e then some (.quotient false x (powerOfTen (-e).toNat))
    else scale steps (.quotient false x (powerOfTen 308)) (e + 308)

def NumberParts.real? (p : NumberParts) : Option Binary64 :=
  let whole := p.whole.foldl Significand.add ⟨0, 0, false⟩
  let dropped := p.whole.length - whole.taken
  let all := (p.fractional.getD []).foldl Significand.add ⟨whole.value, 0, false⟩
  (scale 3 (.nearest false all.value 1) (p.exponent.getD 0 + dropped - all.taken)).map fun x =>
    .ofWord p.negative x.word

/-- Minus zero is a double, since no integer is it. -/
def NumberParts.json? (p : NumberParts) : Option Json :=
  match p.fractional, p.exponent with
  | none, none =>
    let n := Numeral.value p.whole
    if !p.negative && n < 2 ^ 64 then some (int n)
    else if p.negative && 0 < n && n ≤ 2 ^ 63 then some (int (-(n : Int)))
    else p.real?.map real
  | _, _ => p.real?.map real

/-! ## Numbers character by character -/

/-- A number as far as it has been read; the digits of the part that is being read stand in reverse. -/
inductive NumberReader where
  | sign
  | whole (negative : Bool) (digits : List Char)
  | point (negative : Bool) (front : List Char)
  | fraction (negative : Bool) (front digits : List Char)
  | mark (p : NumberParts)
  | markSign (p : NumberParts) (negative : Bool)
  | exponent (p : NumberParts) (negative : Bool) (n : Nat)

/-- What a character does to a number. -/
inductive NumberStep where
  | more (n : NumberReader)
  /-- The number ends before the character. -/
  | over
  | fault (code : FaultCode)

namespace NumberReader

def start? (c : Char) : Option NumberReader :=
  if c = '-' then some sign else if c.isDigit then some (whole false [c]) else none

def isMark (c : Char) : Bool := c == 'e' || c == 'E'

/-- A digit of an exponent. Beyond 31 bits the number is out of range at once, unless it is zero or the exponent is
negative. -/
def addExponent (p : NumberParts) (negative : Bool) (n : Nat) (c : Char) : NumberStep :=
  let n := 10 * n + Numeral.digitValue c
  if 2 ^ 31 ≤ n ∧ !negative ∧ !p.isZero then .fault .outOfRange else .more (exponent p negative n)

def step (r : NumberReader) (c : Char) : NumberStep :=
  match r with
  | sign => if c.isDigit then .more (whole true [c]) else .fault .number
  | whole negative digits =>
    if c.isDigit then
      -- No digit follows a zero at the front.
      if digits = ['0'] then .fault .number else .more (whole negative (c :: digits))
    else if c = '.' then .more (point negative digits.reverse)
    else if isMark c then .more (mark ⟨negative, digits.reverse, none, none⟩)
    else .over
  | point negative front => if c.isDigit then .more (fraction negative front [c]) else .fault .number
  | fraction negative front digits =>
    if c.isDigit then .more (fraction negative front (c :: digits))
    else if isMark c then .more (mark ⟨negative, front, some digits.reverse, none⟩)
    else .over
  | mark p =>
    if c = '+' then .more (markSign p false)
    else if c = '-' then .more (markSign p true)
    else if c.isDigit then addExponent p false 0 c
    else .fault .number
  | markSign p negative => if c.isDigit then addExponent p negative 0 c else .fault .number
  | exponent p negative n => if c.isDigit then addExponent p negative n c else .over

/-- The parts of a number that is over. -/
def parts? : NumberReader → Option NumberParts
  | whole negative digits => some ⟨negative, digits.reverse, none, none⟩
  | fraction negative front digits => some ⟨negative, front, some digits.reverse, none⟩
  | exponent p negative n => some { p with exponent := some (if negative then -(n : Int) else n) }
  | _ => none

/-- The value of a number that is over. -/
def finish (r : NumberReader) : Except FaultCode Json :=
  match r.parts? with
  | none => .error .unfinishedValue
  | some p => (p.json?).elim (.error .outOfRange) .ok

end NumberReader

end RecordDesk.Json
