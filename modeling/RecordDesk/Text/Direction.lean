import RecordDesk.Text.DirectionRanges
import RecordDesk.Text.MarkRanges

/-!
Which way a character is written, and whether a text that mixes both ways reads the same in either.
-/

namespace RecordDesk.Text

inductive Direction where
  | leftToRight
  | rightToLeft
  | europeanNumber
  | arabicNumber
  | mark
  | neutral
  deriving DecidableEq

namespace Direction

/-- Marks without a place of their own that have a direction all the same. -/
def directedMarks : List Nat := [0xCBF, 0xCC6, 0x11A07, 0x11A08, 0x11C3F]

def ofChar (c : Char) : Direction :=
  if c.isAlpha then .leftToRight
  else if c.isDigit then .europeanNumber
  else if c.toNat < 0x80 then .neutral
  else if inRanges rightToLeftRanges c then .rightToLeft
  else if inRanges arabicNumberRanges c then .arabicNumber
  else if inRanges europeanNumberRanges c then .europeanNumber
  else if inRanges neutralRanges c then .neutral
  else if inRanges nonspacingRanges c && !directedMarks.contains c.toNat then .mark
  else .leftToRight

/-- A text with such a character in it is written from right to left in part. -/
def turns (d : Direction) : Bool := d = .rightToLeft || d = .arabicNumber

/-- Directions that a text may have after its first character. It ends in a letter or a number, marks
aside; from left to right no character turns it, and from right to left it has numbers of one kind. -/
def isStableAfter (first : Direction) (rest : List Direction) : Bool :=
  let last? := (rest.reverse.dropWhile (· = .mark)).head?
  match first with
  | .leftToRight =>
    last?.all (fun d => d = .leftToRight || d = .europeanNumber) && rest.all (!·.turns)
  | .rightToLeft =>
    last?.all (fun d => d.turns || d = .europeanNumber) && rest.all (· ≠ .leftToRight) &&
      !(rest.contains .europeanNumber && rest.contains .arabicNumber)
  | _ => false

end Direction

/-- A part of a name that reads the same among parts of either direction. -/
def isStable (cs : List Char) : Bool :=
  match cs.map Direction.ofChar with
  | [] => true
  | first :: rest => first.isStableAfter rest

def turns (cs : List Char) : Bool := cs.any fun c => (Direction.ofChar c).turns

end RecordDesk.Text
