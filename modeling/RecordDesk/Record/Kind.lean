/-!
The six kinds of records, the states they are in, and the priorities of jobs, with their names.
-/

namespace RecordDesk

inductive Kind where
  | entities
  | relationships
  | jobs
  | logs
  | protocols
  | history
  deriving DecidableEq, Inhabited

namespace Kind

/-- All kinds, in the order of their tabs. -/
def all : List Kind := [entities, relationships, jobs, logs, protocols, history]

/-- The name of the collection, also in paths. -/
def name : Kind → String
  | entities => "entities"
  | relationships => "relationships"
  | jobs => "jobs"
  | logs => "logs"
  | protocols => "protocols"
  | history => "history"

def ofName? (s : String) : Option Kind := all.find? (·.name == s)

/-- The title of the tab. -/
def label : Kind → String
  | relationships => "relations"
  | k => k.name

/-- The noun for one record. -/
def noun : Kind → String
  | entities => "entity"
  | relationships => "relationship"
  | jobs => "job"
  | logs => "log"
  | protocols => "protocol"
  | history => "history entry"

/-- The name in JSON documents. -/
def jsonName : Kind → String
  | entities => "Entities"
  | relationships => "Relationships"
  | jobs => "Jobs"
  | logs => "Logs"
  | protocols => "Protocols"
  | history => "History"

def ofJsonName? (s : String) : Option Kind := all.find? (·.jsonName == s)

end Kind

inductive Status where
  | active
  | archived
  deriving DecidableEq, Inhabited

namespace Status

def name : Status → String
  | active => "active"
  | archived => "archived"

/-- Two further words of the service mean archived. -/
def ofName? : String → Option Status
  | "active" => some active
  | "archived" => some archived
  | "inactive" => some archived
  | "deleted" => some archived
  | _ => none

def ofJsonName? (s : String) : Option Status := [active, archived].find? (·.name == s)

def index : Status → Nat
  | active => 0
  | archived => 1

/-- The state with an index, counting round. -/
def ofIndex (n : Nat) : Status := if n % 2 = 0 then active else archived

@[simp] theorem ofIndex_index (s : Status) : ofIndex s.index = s := by cases s <;> rfl

end Status

inductive Priority where
  | low
  | medium
  | high
  | urgent
  deriving DecidableEq

namespace Priority

instance : Inhabited Priority := ⟨medium⟩

def all : List Priority := [low, medium, high, urgent]

def name : Priority → String
  | low => "low"
  | medium => "medium"
  | high => "high"
  | urgent => "urgent"

def ofName? (s : String) : Option Priority := all.find? (·.name == s)

def index : Priority → Nat
  | low => 0
  | medium => 1
  | high => 2
  | urgent => 3

@[simp] theorem getElem?_all_index (p : Priority) : all[p.index]? = some p := by cases p <;> rfl

end Priority

/-- One value for each kind. -/
structure PerKind (α : Type) where
  entities : α
  relationships : α
  jobs : α
  logs : α
  protocols : α
  history : α

namespace PerKind

variable {α : Type}

def get (p : PerKind α) : Kind → α
  | .entities => p.entities
  | .relationships => p.relationships
  | .jobs => p.jobs
  | .logs => p.logs
  | .protocols => p.protocols
  | .history => p.history

def set (p : PerKind α) (k : Kind) (x : α) : PerKind α :=
  match k with
  | .entities => { p with entities := x }
  | .relationships => { p with relationships := x }
  | .jobs => { p with jobs := x }
  | .logs => { p with logs := x }
  | .protocols => { p with protocols := x }
  | .history => { p with history := x }

def ofFn (f : Kind → α) : PerKind α :=
  ⟨f .entities, f .relationships, f .jobs, f .logs, f .protocols, f .history⟩

def map {β : Type} (f : α → β) (p : PerKind α) : PerKind β := ofFn fun k => f (p.get k)

@[simp] theorem get_ofFn (f : Kind → α) (k : Kind) : (ofFn f).get k = f k := by cases k <;> rfl

@[simp] theorem get_map {β : Type} (f : α → β) (p : PerKind α) (k : Kind) :
    (p.map f).get k = f (p.get k) := get_ofFn _ k

@[simp] theorem get_set_self (p : PerKind α) (k : Kind) (x : α) : (p.set k x).get k = x := by
  cases k <;> rfl

theorem get_set_ne {j k : Kind} (h : j ≠ k) (p : PerKind α) (x : α) :
    (p.set k x).get j = p.get j := by
  cases j <;> cases k <;> first | rfl | exact absurd rfl h

@[simp] theorem set_get (p : PerKind α) (k : Kind) : p.set k (p.get k) = p := by cases k <;> rfl

@[simp] theorem set_set (p : PerKind α) (k : Kind) (x y : α) : (p.set k x).set k y = p.set k y := by
  cases k <;> rfl

end PerKind

end RecordDesk
