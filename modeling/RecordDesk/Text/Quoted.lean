import RecordDesk.Text.GlyphRanges

/-!
Texts between double quotes, as messages show them: quotes and backslashes are escaped, and so is
every character that would not show as itself.
-/

namespace RecordDesk.Text

def isUnprintable (c : Char) : Bool := inRanges unprintableRanges c

/-- Marks that show only on the character before them. The two halfwidth voicing marks have a place of
their own. -/
def isCombining (c : Char) : Bool := inRanges extendingRanges c && c != '\uff9e' && c != '\uff9f'

/-- An escape that names the code point in lower-case hexadecimal digits. -/
def codeEscape (c : Char) : List Char :=
  '\\' :: 'u' :: '{' :: (Nat.toDigits 16 c.toNat ++ ['}'])

def escaped (c : Char) : List Char :=
  if c = '\x00' then ['\\', '0']
  else if c = '\t' then ['\\', 't']
  else if c = '\n' then ['\\', 'n']
  else if c = '\r' then ['\\', 'r']
  else if c = '"' then ['\\', '"']
  else if c = '\\' then ['\\', '\\']
  else if 0x20 ≤ c.toNat && c.toNat < 0x7F then [c]
  else if isCombining c || isUnprintable c then codeEscape c
  else [c]

def quoted (s : String) : String := .ofList ('"' :: (s.toList.flatMap escaped ++ ['"']))

end RecordDesk.Text
