import RecordDesk.Text.CaseRuns

/-!
Lower-casing with the full Unicode mappings. A capital sigma becomes the final form exactly when a
cased letter comes before it and none after it, skipping case-ignorable characters both ways.
-/

namespace RecordDesk.Text

/-- The lower-case form of one character on its own; only the dotted capital I has two characters. -/
def lowerChar (c : Char) : List Char :=
  if c.toNat < 128 then [c.toLower]
  else if c = '\u0130' then ['i', '\u0307']
  else [(shifted? caseRuns c).getD c]

def isCased (c : Char) : Bool := inRanges casedRanges c

def isCaseIgnorable (c : Char) : Bool := inRanges caseIgnorableRanges c

/-- The first character that is not case-ignorable is cased. -/
def meetsCased (cs : List Char) : Bool :=
  match cs.dropWhile isCaseIgnorable with
  | [] => false
  | c :: _ => isCased c

/-- Lower-cases a text of which `before`, nearest character first, has been passed. -/
def lowerFrom (before : List Char) : List Char → List Char
  | [] => []
  | c :: cs =>
    (if c = 'Σ' then [if meetsCased before && !meetsCased cs then 'ς' else 'σ'] else lowerChar c)
      ++ lowerFrom (c :: before) cs

def lowered (cs : List Char) : List Char := lowerFrom [] cs

def lower (s : String) : String := .ofList (lowered s.toList)

/-- Lower-cases the letters A to Z and keeps all else. -/
def asciiLower (s : String) : String := s.map Char.toLower

theorem lowered_nil : lowered [] = [] := rfl

end RecordDesk.Text
