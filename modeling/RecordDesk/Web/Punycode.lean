import RecordDesk.Text.Split

/-!
Punycode: a text in ASCII letters, digits and hyphens. The ASCII characters of the text stand before the
last hyphen; what follows says, as numbers in a base of 36 digits, which other characters go where.
-/

namespace RecordDesk.Web.Punycode

/-- Letters count from zero, digits from 26. -/
def digit? (c : Char) : Option Nat :=
  if c.isUpper then some (c.toNat - 65)
  else if c.isLower then some (c.toNat - 97)
  else if c.isDigit then some (c.toNat - 48 + 26)
  else none

/-- A digit below it is the last one of a number. It depends on the place of the digit and on the numbers
read so far. -/
def threshold (place bias : Nat) : Nat :=
  if place ≤ bias then 1 else if bias + 26 ≤ place then 26 else place - bias

/-- Halves the way to the place where a number of this size would end. -/
def biasOf (delta : Nat) : Nat :=
  if 455 < delta then biasOf (delta / 35) + 36 else 36 * delta / (delta + 38)
termination_by delta
decreasing_by omega

/-- The bias after a number: the first one is scaled down most. -/
def nextBias (delta count : Nat) (isFirst : Bool) : Nat :=
  let scaled := if isFirst then delta / 700 else delta / 2
  biasOf (scaled + scaled / count)

/-- Reads one number, the lowest digit first: its value, and the rest of the text. -/
def number? (bias : Nat) (place weight : Nat) : List Char → Option (Nat × List Char)
  | [] => none
  | c :: cs => do
    let d ← digit? c
    let t := threshold place bias
    if d < t then return (d * weight, cs)
    else
      let (n, rest) ← number? bias (place + 36) (weight * (36 - t)) cs
      return (d * weight + n, rest)

theorem length_of_number? {bias place weight n : Nat} {cs rest : List Char}
    (h : number? bias place weight cs = some (n, rest)) : rest.length < cs.length := by
  induction cs generalizing place weight n rest with
  | nil => simp [number?] at h
  | cons c cs ih =>
    simp only [number?, Option.bind_eq_bind, Option.bind_eq_some_iff] at h
    obtain ⟨d, _, h⟩ := h
    split at h
    · simp only [Option.pure_def, Option.some.injEq, Prod.mk.injEq] at h
      simp [← h.2]
    · simp only [Option.bind_eq_some_iff, Option.pure_def, Option.some.injEq, Prod.mk.injEq] at h
      obtain ⟨⟨n', rest'⟩, hn, _, hr⟩ := h
      have := ih hn
      simp only [List.length_cons, ← hr]
      omega

/-- Puts characters into a text. Each number says how many steps lie between one and the next, where the
steps go through the places of the text and then on to the next code point. -/
def insertions? (bias code place : Nat) (text : List Char) (cs : List Char) : Option (List Char) :=
  if cs.isEmpty then some text
  else
    match _read : number? bias 36 1 cs with
    | none => none
    | some (delta, rest) =>
      let count := text.length + 1
      let code := code + (place + delta) / count
      if code.isValidChar then
        insertions? (nextBias delta count (place == 0)) code ((place + delta) % count + 1)
          (text.insertIdx ((place + delta) % count) (Char.ofNat code)) rest
      else none
termination_by cs.length
decreasing_by exact length_of_number? ‹_›

/-- Splits at the last hyphen. A hyphen in front of all else separates nothing. -/
def splitAscii (cs : List Char) : List Char × List Char :=
  match (Text.pieces (· == '-') cs).getLast? with
  | none => ([], cs)
  | some coded =>
    let ascii := cs.take (cs.length - coded.length - 1)
    if ascii.isEmpty then ([], cs) else (ascii, coded)

/-- The text of a code. -/
def decode? (cs : List Char) : Option (List Char) :=
  let (ascii, coded) := splitAscii cs
  if ascii.all (·.toNat < 0x80) then insertions? 72 128 0 ascii coded else none

end RecordDesk.Web.Punycode
