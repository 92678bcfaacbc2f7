import RecordDesk.Text.Blank
import RecordDesk.Text.Lower
import RecordDesk.Text.Split

/-!
The instant filter and the completion of search texts, both without regard to case.
-/

namespace RecordDesk.Search

/-- The query, cut of white space, occurs in the label. -/
def hit (query label : String) : Bool :=
  let q := Text.trimmed query.toList
  q.isEmpty || Text.occursIn (Text.lowered q) (Text.lowered label.toList)

/-- The characters of the first text as long as the second one has the same up to case. -/
def sharedStart : List Char → List Char → List Char
  | a :: as, b :: bs => if Text.lowerChar a = Text.lowerChar b then a :: sharedStart as bs else []
  | _, _ => []

/-- The candidates that continue the buffer. -/
def continuing (buffer : String) (candidates : List String) : List (List Char) :=
  (candidates.map String.toList).filter fun c =>
    (Text.lowered buffer.toList).isPrefixOf (Text.lowered c)

/-- The longest start that all candidates continuing the buffer share, when it is longer than the
buffer. -/
def suggest (buffer : String) (candidates : List String) : Option String :=
  if buffer.isEmpty then none
  else match continuing buffer candidates with
    | [] => none
    | c :: cs =>
      let shared := cs.foldl sharedStart c
      if buffer.toList.length < shared.length then some (.ofList shared) else none

end RecordDesk.Search
