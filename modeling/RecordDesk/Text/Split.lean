/-!
Splitting a text at characters and into lines, and looking for one text inside another.
-/

namespace RecordDesk.Text

/-- The pieces between the separators: one more than there are separators. -/
def pieces (isSeparator : Char → Bool) : List Char → List (List Char)
  | [] => [[]]
  | c :: cs =>
    if isSeparator c then [] :: pieces isSeparator cs
    else match pieces isSeparator cs with
      | [] => [[c]]
      | p :: ps => (c :: p) :: ps

/-- Drops one carriage return at the end of a line that a line feed ended. -/
def dropReturn (cs : List Char) : List Char :=
  if cs.getLast? = some '\r' then cs.dropLast else cs

/-- The lines of a text. Each line feed ends a line, together with a carriage return before it;
what follows the last line feed is a line only when it is not empty. -/
def lineList (cs : List Char) : List (List Char) :=
  let ps := pieces (· == '\n') cs
  ps.dropLast.map dropReturn ++ (ps.getLast?.toList.filter (· ≠ []))

def lines (s : String) : List String := (lineList s.toList).map .ofList

/-- What stands before and after the first `sep`, when there is one. -/
def cutAt (sep : Char) : List Char → Option (List Char × List Char)
  | [] => none
  | c :: cs => if c = sep then some ([], cs) else (cutAt sep cs).map fun (a, b) => (c :: a, b)

/-- `needle` occurs in the text as an unbroken run. -/
def occursIn (needle : List Char) : List Char → Bool
  | [] => needle.isEmpty
  | c :: cs => needle.isPrefixOf (c :: cs) || occursIn needle cs

/-- The rest of a text after `lead`, when it starts so. -/
def after? : List Char → List Char → Option (List Char)
  | [], cs => some cs
  | _ :: _, [] => none
  | a :: lead, c :: cs => if a = c then after? lead cs else none

/-- The text before `tail`, when it ends so. -/
def before? (tail cs : List Char) : Option (List Char) :=
  (after? tail.reverse cs.reverse).map List.reverse

def joinWith (separator : String) (parts : List String) : String := separator.intercalate parts

/-- The text without its last character. -/
def dropLast (s : String) : String := .ofList s.toList.dropLast

theorem pieces_ne_nil (p : Char → Bool) (cs : List Char) : pieces p cs ≠ [] := by
  cases cs with
  | nil => simp [pieces]
  | cons c cs =>
    simp only [pieces]
    split
    · simp
    · split <;> simp

end RecordDesk.Text
