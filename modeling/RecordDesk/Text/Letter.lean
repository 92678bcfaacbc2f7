import RecordDesk.Text.LetterRanges

/-!
Letters and numerals of all scripts.
-/

namespace RecordDesk.Text

def isLetter (c : Char) : Bool := inRanges letterRanges c

def isLetterOrNumeral (c : Char) : Bool := isLetter c || inRanges numeralRanges c

end RecordDesk.Text
