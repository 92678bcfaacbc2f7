import RecordDesk.Text.Cluster
import RecordDesk.Text.ColumnRanges

/-!
How many columns of a terminal a text takes. Characters are added up from the last to the first,
since what a character takes may depend on the one after it.
-/

namespace RecordDesk.Text

/-- What stands after a character, as far as its columns depend on it. A picture is said to be joined
when a joiner ties it to a picture after it. -/
inductive Next where
  | plain
  | lineFeed
  | pictureSelector
  | joinedPictureSelector
  | signSelector
  | picture
  | skinTone
  | joinedPicture
  | khmerLetter
  | kiratE
  | kiratAi
  deriving DecidableEq

/-- The columns of a character on its own. -/
def charColumns (c : Char) : Nat :=
  if c.toNat ≤ 0xA0 then 1
  else if c = '\u17d8' then 3
  else if c = '\u17a4' then 2
  else if c = '\u2d7f' then 1
  else if inRanges wideRanges c then 2
  else if inRanges extendingRanges c || inRanges hiddenRanges c then 0
  else 1

/-- What a character is to the one before it. -/
def Next.ofChar (c : Char) : Next :=
  if c.toNat ≤ 0xA0 then (if c = '\n' then .lineFeed else .plain)
  else if c = '\ufe0f' then .pictureSelector
  else if c = '\ufe0e' then .signSelector
  else if ClusterClass.isSkinTone c then .skinTone
  else if inRanges emojiRanges c then .picture
  else if inRanges subscriptRanges c then .khmerLetter
  else if c.toNat = 0x16D67 then .kiratE
  else if c.toNat = 0x16D68 then .kiratAi
  else .plain

/-- A character that takes what the characters after it leave, by the rules for joined pictures and for
letters that merge; none where it counts as it does on its own. -/
def merged? (c : Char) (next : Next) : Option (Int × Next) :=
  match next with
  | .lineFeed => if c = '\r' then some (0, .plain) else none
  | .pictureSelector => if inRanges emojiStyleRanges c then some (2, .picture) else none
  | .joinedPictureSelector => if inRanges emojiStyleRanges c then some (0, .picture) else none
  | .signSelector => if inRanges textStyleRanges c then some (1, .plain) else none
  | .picture => if c = '\u200d' then some (0, .joinedPicture) else none
  | .skinTone =>
    if c = '\u200d' then some (0, .joinedPicture)
    else if inRanges tonedRanges c then some (0, .picture)
    else none
  | .joinedPicture =>
    if c = '\ufe0f' then some (0, .joinedPictureSelector)
    else if ClusterClass.isSkinTone c then some (0, .skinTone)
    else if inRanges emojiRanges c then some (0, .picture)
    else none
  | .khmerLetter => if c = '\u17d2' then some (-1, .plain) else none
  | .kiratE =>
    if c.toNat = 0x16D63 ∨ c.toNat = 0x16D69 then some (0, .plain)
    else if c.toNat = 0x16D67 then some (0, .kiratAi)
    else if c.toNat = 0x16D68 then some (1, .kiratE)
    else none
  | .kiratAi => if c.toNat = 0x16D63 then some (0, .plain) else none
  | .plain => none

/-- The columns that a character adds before what follows it. -/
def columnsBefore (c : Char) (next : Next) : Int × Next :=
  (merged? c next).getD ((charColumns c : Int), Next.ofChar c)

/-- The columns of a text, and what it is to a character before it. -/
def columnsOf : List Char → Int × Next
  | [] => (0, .plain)
  | c :: cs =>
    let (width, next) := columnsOf cs
    let (more, next) := columnsBefore c next
    (more + width, next)

def columns (cs : List Char) : Nat := (columnsOf cs).1.toNat

end RecordDesk.Text
