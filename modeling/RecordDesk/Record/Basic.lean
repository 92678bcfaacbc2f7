import RecordDesk.Metadata.Value
import RecordDesk.NameSet
import RecordDesk.Record.Instant
import RecordDesk.Record.Kind

/-!
Records: what one entry of the remote service looks like, whatever its kind.
-/

namespace RecordDesk

/-- `fields` holds the attributes that belong to the kind, by their wire names, in display order. -/
structure Record where
  id : String
  kind : Kind
  title : String
  status : Status
  fields : List (String × String)
  tags : NameSet
  scopes : NameSet
  metadata : Metadata.Tree
  updatedAt : Option Instant

namespace Record

/-- An active record that has nothing but its kind, id and title. -/
def named (kind : Kind) (id title : String) : Record :=
  ⟨id, kind, title, .active, [], .empty, .empty, [], none⟩

/-- Gives a field its value: in place when there is one of that name, else at the end. -/
def putField (key value : String) : List (String × String) → List (String × String)
  | [] => [(key, value)]
  | f :: fs => if f.1 = key then (f.1, value) :: fs else f :: putField key value fs

def getField? (key : String) : List (String × String) → Option String
  | [] => none
  | f :: fs => if f.1 = key then some f.2 else getField? key fs

def field? (r : Record) (key : String) : Option String := getField? key r.fields

/-- The text of a field, empty when there is none. -/
def fieldText (r : Record) (key : String) : String := (r.field? key).getD ""

def setField (r : Record) (key value : String) : Record :=
  { r with fields := putField key value r.fields }

def withFields (r : Record) (fs : List (String × String)) : Record :=
  fs.foldl (fun r f => r.setField f.1 f.2) r

end Record

end RecordDesk
