import RecordDesk.Text.Blank
import RecordDesk.Text.Lower

/-!
The normal forms in which tags and scopes are stored.
-/

namespace RecordDesk

inductive LabelKind where
  | tag
  | scope
  deriving DecidableEq

/-- Tags are trimmed and in lower case; scopes also lose the hash marks in front. -/
def LabelKind.normalList : LabelKind → List Char → List Char
  | .tag, cs => Text.lowered (Text.trimmed cs)
  | .scope, cs => Text.trimmed ((Text.lowered (Text.trimmed cs)).dropWhile (· == '#'))

def LabelKind.normal (k : LabelKind) (s : String) : String := .ofList (k.normalList s.toList)

end RecordDesk
