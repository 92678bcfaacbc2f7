import RecordDesk.Number.Numeral
import RecordDesk.Text.Split

/-!
Points in time as a calendar shows them at some offset from UTC, and their text after RFC 3339.
-/

namespace RecordDesk

structure Date where
  year : Nat
  month : Nat
  day : Nat
  deriving DecidableEq

namespace Date

def isLeap (year : Nat) : Bool := year % 4 == 0 && (year % 100 != 0 || year % 400 == 0)

def monthLength (year month : Nat) : Nat :=
  match month with
  | 2 => if isLeap year then 29 else 28
  | 4 => 30
  | 6 => 30
  | 9 => 30
  | 11 => 30
  | _ => 31

def isValid (d : Date) : Bool :=
  1 ≤ d.month && d.month ≤ 12 && 1 ≤ d.day && d.day ≤ monthLength d.year d.month

def previous (d : Date) : Date :=
  if 1 < d.day then { d with day := d.day - 1 }
  else if 1 < d.month then ⟨d.year, d.month - 1, monthLength d.year (d.month - 1)⟩
  else ⟨d.year - 1, 12, 31⟩

def next (d : Date) : Date :=
  if d.day < monthLength d.year d.month then { d with day := d.day + 1 }
  else if d.month < 12 then ⟨d.year, d.month + 1, 1⟩
  else ⟨d.year + 1, 1, 1⟩

/-- The date a number of days earlier. -/
def back : Nat → Date → Date
  | 0, d => d
  | n + 1, d => back n d.previous

def write (d : Date) : List Char :=
  Numeral.padded 4 d.year ++ '-' :: (Numeral.padded 2 d.month ++ '-' :: Numeral.padded 2 d.day)

end Date

/-- A time of day on a date, at an offset from UTC in minutes. -/
structure Instant where
  date : Date
  hour : Nat
  minute : Nat
  second : Nat
  nano : Nat
  offset : Int
  deriving DecidableEq

namespace Instant

def minuteOfDay (t : Instant) : Nat := 60 * t.hour + t.minute

/-- The point in time a number of minutes earlier, at the same offset. -/
def minusMinutes (t : Instant) (n : Nat) : Instant :=
  let days := (n + 1439 - t.minuteOfDay) / 1440
  let m := t.minuteOfDay + 1440 * days - n
  { t with date := t.date.back days, hour := m / 60, minute := m % 60 }

/-- The date and the minute of the day at UTC. -/
def utc (t : Instant) : Date × Nat :=
  let m := (t.minuteOfDay : Int) - t.offset
  if m < 0 then (t.date.previous, (m + 1440).toNat)
  else if 1440 ≤ m then (t.date.next, (m - 1440).toNat)
  else (t.date, m.toNat)

/-- A leap second may stand only at the end of a month at UTC. -/
def endsMonth (t : Instant) : Bool :=
  let (d, m) := t.utc
  m == 1439 && d.day == Date.monthLength d.year d.month

/-- Hours and minutes. -/
def clock (t : Instant) : List Char := Numeral.padded 2 t.hour ++ ':' :: Numeral.padded 2 t.minute

/-- The fraction of a second without zeros at its end; nothing for whole seconds. -/
def writeFraction (nano : Nat) : List Char :=
  if nano = 0 then []
  else '.' :: ((Numeral.padded 9 nano).reverse.dropWhile (· == '0')).reverse

def writeOffset (offset : Int) : List Char :=
  if offset = 0 then ['Z']
  else
    (if offset < 0 then '-' else '+') ::
      (Numeral.padded 2 (offset.natAbs / 60) ++ ':' :: Numeral.padded 2 (offset.natAbs % 60))

def write (t : Instant) : List Char :=
  t.date.write ++ 'T' :: (t.clock ++ ':' :: (Numeral.padded 2 t.second ++
    (writeFraction t.nano ++ writeOffset t.offset)))

/-- Exactly `n` digits, and the text after them. -/
def digits? (n : Nat) (cs : List Char) : Option (Nat × List Char) :=
  if Numeral.isDigits (cs.take n) && (cs.take n).length == n then
    some (Numeral.value (cs.take n), cs.drop n)
  else none

/-- The text after one given character. -/
def mark? (c : Char) : List Char → Option (List Char)
  | [] => none
  | d :: ds => if d = c then some ds else none

/-- Nanoseconds after a point; digits beyond the ninth are dropped. -/
def fraction? : List Char → Option (Nat × List Char)
  | '.' :: cs =>
    let ds := cs.takeWhile Char.isDigit
    if ds.isEmpty then none
    else some (Numeral.value ((ds ++ List.replicate 9 '0').take 9), cs.dropWhile Char.isDigit)
  | cs => some (0, cs)

/-- A letter Z, or a sign with hours and minutes: at most 25 hours and 59 minutes. -/
def offset? : List Char → Option Int
  | ['Z'] => some 0
  | ['z'] => some 0
  | c :: cs => do
    let sign : Int ← if c = '+' then some 1 else if c = '-' then some (-1) else none
    let (h, cs) ← digits? 2 cs
    let cs ← mark? ':' cs
    let (m, cs) ← digits? 2 cs
    guard (cs.isEmpty && h ≤ 25 && m ≤ 59)
    return sign * (60 * h + m : Nat)
  | [] => none

/-- Reads a date, any one ASCII character, a time of day and an offset. A second numbered 60 counts
as the last nanosecond before it. -/
def read? (s : String) : Option Instant := do
  let (year, cs) ← digits? 4 s.toList
  let cs ← mark? '-' cs
  let (month, cs) ← digits? 2 cs
  let cs ← mark? '-' cs
  let (day, cs) ← digits? 2 cs
  let separator ← cs.head?
  guard (separator.toNat < 128)
  let (hour, cs) ← digits? 2 cs.tail
  let cs ← mark? ':' cs
  let (minute, cs) ← digits? 2 cs
  let cs ← mark? ':' cs
  let (second, cs) ← digits? 2 cs
  let (nano, cs) ← fraction? cs
  let offset ← offset? cs
  let leap := second == 60
  let t : Instant :=
    ⟨⟨year, month, day⟩, hour, minute, if leap then 59 else second, if leap then 999999999 else nano, offset⟩
  guard (t.date.isValid && t.hour < 24 && t.minute < 60 && t.second < 60)
  guard (!leap || t.endsMonth)
  return t

end Instant

end RecordDesk
