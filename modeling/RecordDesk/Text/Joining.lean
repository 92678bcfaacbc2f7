import RecordDesk.Text.Composed
import RecordDesk.Text.JoiningRanges

/-!
Joiners in a text: invisible characters that ask for two letters to be joined or kept apart. They have
a place after a sign that silences a vowel, and between letters that would join.
-/

namespace RecordDesk.Text

/-- Keeps two letters apart. -/
def nonJoiner : Char := '\u200c'

/-- Joins two letters. -/
def joiner : Char := '\u200d'

/-- The sign that silences the vowel of a consonant. -/
def isVowelKiller (c : Char) : Bool := markRank c = 9

/-- Marks and one letter's sign are passed over on the way to the letter that joins. -/
def isTransparent (c : Char) : Bool := inRanges nonspacingRanges c || c.toNat == 0x1E94B

/-- The first letter of a text joins on a side. -/
def meetsJoining (side : List CodeRange) (cs : List Char) : Bool :=
  (cs.dropWhile isTransparent).head?.any fun c => inRanges bothSidesRanges c || inRanges side c

/-- The text before a joiner comes nearest character first. -/
def joinerFits (before : List Char) (c : Char) (after : List Char) : Bool :=
  before.head?.any fun p =>
    isVowelKiller p ||
      (c == nonJoiner && meetsJoining leftSideRanges before && meetsJoining rightSideRanges after)

/-- All joiners of a text have their place, after a text that is given in reverse. -/
def joinersFitAfter (before : List Char) : List Char → Bool
  | [] => true
  | c :: cs =>
    ((c != joiner && c != nonJoiner) || joinerFits before c cs) && joinersFitAfter (c :: before) cs

def joinersFit (cs : List Char) : Bool := joinersFitAfter [] cs

end RecordDesk.Text
