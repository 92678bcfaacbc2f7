/-!
White space, control characters, and cutting white space off the ends of a text.
-/

namespace RecordDesk.Text

/-- The characters with the Unicode property `White_Space`. -/
def isBlank (c : Char) : Bool :=
  let n := c.toNat
  (9 ≤ n && n ≤ 13) || n == 0x20 || n == 0x85 || n == 0xA0 || n == 0x1680 ||
    (0x2000 ≤ n && n ≤ 0x200A) || n == 0x2028 || n == 0x2029 || n == 0x202F || n == 0x205F ||
    n == 0x3000

/-- The two blocks of control codes, below the space and from delete to U+009F. -/
def isControl (c : Char) : Bool := c.toNat < 0x20 || (0x7F ≤ c.toNat && c.toNat < 0xA0)

/-- Drops the longest run at the end whose characters all satisfy `p`. -/
def dropEndWhile (p : Char → Bool) (cs : List Char) : List Char := (cs.reverse.dropWhile p).reverse

def trimmedStart (cs : List Char) : List Char := cs.dropWhile isBlank

def trimmedEnd (cs : List Char) : List Char := dropEndWhile isBlank cs

def trimmed (cs : List Char) : List Char := trimmedEnd (trimmedStart cs)

def trim (s : String) : String := .ofList (trimmed s.toList)

def trimStart (s : String) : String := .ofList (trimmedStart s.toList)

def trimEnd (s : String) : String := .ofList (trimmedEnd s.toList)

/-- No character other than white space. -/
def isBlankText (s : String) : Bool := s.toList.all isBlank

theorem trimmed_nil : trimmed [] = [] := rfl

end RecordDesk.Text
