import RecordDesk.Text.Compositions
import RecordDesk.Text.MarkRanges

/-!
Texts in composed form: marks on one character stand in the order of their ranks, and a character and
a mark are written as one character where there is one for both.
-/

namespace RecordDesk.Text

/-- Zero for all characters but the marks that can change places. -/
def markRank (c : Char) : Nat := ((markRanks.find? (·.codes.covers c.toNat)).map (·.rank)).getD 0

/-! ## Hangul syllables -/

/-- The letters of a syllable: two, or three when a consonant closes it. -/
def syllableLetters? (n : Nat) : Option (List Nat) :=
  if 0xAC00 ≤ n ∧ n ≤ 0xD7A3 then
    let i := n - 0xAC00
    some ([0x1100 + i / 588, 0x1161 + i % 588 / 28] ++ if i % 28 = 0 then [] else [0x11A7 + i % 28])
  else none

/-- A consonant and a vowel, or an open syllable and a consonant, as one syllable. -/
def syllable? (a b : Nat) : Option Nat :=
  if 0x1100 ≤ a ∧ a ≤ 0x1112 ∧ 0x1161 ≤ b ∧ b ≤ 0x1175 then
    some (0xAC00 + (a - 0x1100) * 588 + (b - 0x1161) * 28)
  else if 0xAC00 ≤ a ∧ a ≤ 0xD7A3 ∧ (a - 0xAC00) % 28 = 0 ∧ 0x11A8 ≤ b ∧ b ≤ 0x11C2 then
    some (a + (b - 0x11A7))
  else none

/-! ## Taking apart -/

/-- Takes a character apart, at most so many times. -/
def takenApart : Nat → Char → List Char
  | 0, c => [c]
  | depth + 1, c =>
    match compositions.find? (·.whole == c.toNat) with
    | some k => takenApart depth (Char.ofNat k.base) ++ [Char.ofNat k.mark]
    | none => [c]

/-- No composition has more than four characters. -/
def decomposition (c : Char) : List Char :=
  if c.toNat < 0xC0 then [c]
  else match syllableLetters? c.toNat with
    | some ns => ns.map Char.ofNat
    | none => takenApart 3 c

/-! ## Order -/

/-- Puts a character in front of a text; a mark moves behind the marks of lower rank. -/
def placed (c : Char) : List Char → List Char
  | [] => [c]
  | d :: ds => if 0 < markRank d ∧ markRank d < markRank c then d :: placed c ds else c :: d :: ds

def ordered (cs : List Char) : List Char := cs.foldr placed []

/-! ## Putting together -/

def together? (a b : Char) : Option Char :=
  match syllable? a.toNat b.toNat with
  | some n => some (Char.ofNat n)
  | none => (compositions.find? fun k => k.base == a.toNat && k.mark == b.toNat).map fun k => Char.ofNat k.whole

/-- A character, the marks on it, the last one first, and the text after them. A mark joins the character
unless one of the same or a higher rank stands between them. -/
def puttingTogether (base : Char) (marks : List Char) : List Char → List Char
  | [] => base :: marks.reverse
  | c :: cs =>
    let reaches := match marks with
      | [] => true
      | m :: _ => markRank m < markRank c
    match if reaches then together? base c else none with
    | some whole => puttingTogether whole marks cs
    | none =>
      if markRank c = 0 then base :: marks.reverse ++ puttingTogether c [] cs
      else puttingTogether base (c :: marks) cs

/-- Marks in front of all else stay as they are. -/
def recomposed : List Char → List Char
  | [] => []
  | c :: cs => if markRank c = 0 then puttingTogether c [] cs else c :: recomposed cs

def composed (cs : List Char) : List Char := recomposed (ordered (cs.flatMap decomposition))

end RecordDesk.Text
