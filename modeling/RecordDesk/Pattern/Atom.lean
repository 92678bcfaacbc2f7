import RecordDesk.Json.Reader
import RecordDesk.Text.Blank

/-!
The smallest parts of a pattern, and the modes that decide which of them it may have. Patterns are
searched without tables of scripts and cases: where a part needs one, it is refused.
-/

namespace RecordDesk.Pattern

/-- How the parts of a pattern are read and what they stand for. -/
structure Modes where
  /-- Parts stand for characters, and not for bytes. -/
  unicode : Bool := true
  ignoreCase : Bool := false
  /-- Blanks and comments between the parts do not count. -/
  spaced : Bool := false
  deriving DecidableEq

/-! ## Gaps -/

/-- Drops blanks, and comments up to the end of their lines. -/
def dropGap (inComment : Bool) : List Char → List Char
  | [] => []
  | c :: cs =>
    if inComment then dropGap (c != '\n') cs
    else if c = '#' then dropGap true cs
    else if Text.isBlank c then dropGap false cs
    else c :: cs

/-- What comes next, when a gap may stand before it. -/
def Modes.next (m : Modes) (cs : List Char) : List Char := if m.spaced then dropGap false cs else cs

/-! ## Atoms -/

/-- What a part without parts of its own stands for. -/
inductive Atom where
  /-- One character. A byte can be given by its two digits. -/
  | literal (c : Char) (asByte : Bool)
  /-- Digits, blanks or the characters of words; or all others. -/
  | sort (negated : Bool)
  /-- Any character but the end of a line. -/
  | any
  /-- The place where a line or the text begins or ends. -/
  | edge
  /-- The place where a word begins or ends, or any other. -/
  | wordEdge
  deriving DecidableEq

/-- Only characters of the ASCII range are bytes by themselves, and what stands for a byte must not stand
for a part of a character. Without tables, characters have no case, no sort and no words. -/
def Atom.fits (m : Modes) : Atom → Bool
  | .literal c asByte => if m.unicode then !m.ignoreCase else !asByte || c.toNat < 0x80
  | .sort negated => !m.unicode && !negated
  | .any => m.unicode
  | .edge => true
  | .wordEdge => !m.unicode

/-! ## Escapes -/

/-- How many digits give a code point. -/
def codeLength? (c : Char) : Option Nat :=
  if c = 'x' then some 2 else if c = 'u' then some 4 else if c = 'U' then some 8 else none

/-- The value of so many digits, with gaps between them. -/
def code? (m : Modes) : Nat → Nat → List Char → Option (Nat × List Char)
  | 0, value, cs => some (value, cs)
  | n + 1, value, cs =>
    match m.next cs with
    | [] => none
    | c :: cs => (Json.hexValue? c).bind fun digit => code? m n (16 * value + digit) cs

/-- What a letter or a sign behind a backslash stands for. All ASCII signs stand for themselves but the
angle brackets, which mark the edges of words; other letters and all digits stand for nothing. -/
def Atom.ofEscape? (c : Char) : Option Atom :=
  match c with
  | 'a' => some (.literal '\x07' false)
  | 't' => some (.literal '\t' false)
  | 'n' => some (.literal '\n' false)
  | 'v' => some (.literal '\x0b' false)
  | 'f' => some (.literal '\x0c' false)
  | 'r' => some (.literal '\r' false)
  | 'd' | 's' | 'w' => some (.sort false)
  | 'D' | 'S' | 'W' => some (.sort true)
  | 'A' | 'z' => some .edge
  | 'b' | 'B' | '<' | '>' => some .wordEdge
  | c => if c.isAlphanum || 0x80 ≤ c.toNat then none else some (.literal c false)

/-- The atom behind a backslash, and what follows it. -/
def escape? (m : Modes) : List Char → Option (Atom × List Char)
  | [] => none
  | c :: cs =>
    match codeLength? c with
    | none => (Atom.ofEscape? c).map fun a => (a, cs)
    | some n => do
      let (value, rest) ← code? m n 0 cs
      guard value.isValidChar
      return (.literal (Char.ofNat value) (n == 2), rest)

end RecordDesk.Pattern
