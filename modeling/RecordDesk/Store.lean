import RecordDesk.Command
import RecordDesk.Search

/-!
A record service in memory. It keeps a log of its calls, and any of its operations can be made to
fail.
-/

namespace RecordDesk

inductive Operation where
  | query
  | get
  | create
  | update
  | bulkUpdate
  | revert
  | listScopes
  | listActors
  deriving DecidableEq

namespace Operation

def all : List Operation := [query, get, create, update, bulkUpdate, revert, listScopes, listActors]

def name : Operation → String
  | query => "query"
  | get => "get"
  | create => "create"
  | update => "update"
  | bulkUpdate => "bulk_update"
  | revert => "revert"
  | listScopes => "list_scopes"
  | listActors => "list_actors"

def ofName? (s : String) : Option Operation := all.find? (·.name == s)

end Operation

/-- Why a store refuses a call. -/
inductive StoreError where
  | failing (message : String)
  | notFound (kind : Kind) (id : String)
  | invalid (e : PayloadFault)
  deriving DecidableEq

def StoreError.message : StoreError → String
  | .failing message => message
  | .notFound kind id => s!"{kind.noun} {id} not found"
  | .invalid e => e.message

/-- `failures` holds the operations that fail, the latest choice first; `created` counts the ids
that the store has given. -/
structure Store where
  records : PerKind (List Record)
  scopes : List String
  actors : List String
  failures : List (Operation × String)
  calls : List String
  created : Nat

namespace Store

def empty : Store := ⟨.ofFn fun _ => [], [], [], [], [], 0⟩

/-- From now on the operation fails with a message. -/
def fail (s : Store) (op : Operation) (message : String) : Store :=
  { s with failures := (op, message) :: s.failures }

def recover (s : Store) (op : Operation) : Store :=
  { s with failures := s.failures.filter (·.1 != op) }

def failure? (s : Store) (op : Operation) : Option String :=
  (s.failures.find? (·.1 == op)).map (·.2)

/-- Writes a call into the log, and makes it unless the operation fails. -/
def call {α : Type} (op : Operation) (detail : String) (run : Store → Except StoreError α × Store)
    (s : Store) : Except StoreError α × Store :=
  let s := { s with calls := s.calls ++ [Text.trimEnd (op.name ++ " " ++ detail)] }
  match s.failure? op with
  | some message => (.error (.failing message), s)
  | none => run s

def setRecords (s : Store) (kind : Kind) (rs : List Record) : Store :=
  { s with records := s.records.set kind rs }

/-- The records of a kind that a query asks for. -/
def hits (s : Store) (kind : Kind) (filter : QueryFilter) : List Record :=
  (s.records.get kind).filter fun r =>
    (filter.includeArchived || r.status == .active) && Search.hit filter.search r.title

def query (kind : Kind) (filter : QueryFilter) : Store → Except StoreError (List Record) × Store :=
  call .query (kind.name ++ " " ++ Text.quoted filter.search) fun s => (.ok (s.hits kind filter), s)

def find? (s : Store) (kind : Kind) (id : String) : Option Record :=
  (s.records.get kind).find? (·.id == id)

def get (kind : Kind) (id : String) : Store → Except StoreError Record × Store :=
  call .get (kind.name ++ "/" ++ id) fun s =>
    match s.find? kind id with
    | some r => (.ok r, s)
    | none => (.error (.notFound kind id), s)

def create (p : Payload) : Store → Except StoreError Record × Store :=
  call .create p.kind.name fun s =>
    match p.fault? with
    | some e => (.error (.invalid e), s)
    | none =>
      let r := p.toRecord s!"new-{s.created + 1}"
      (.ok r, { s with created := s.created + 1 }.setRecords p.kind (s.records.get p.kind ++ [r]))

/-- A record after an update. A payload keeps the fields that it does not have. -/
def updated (r : Record) : UpdateBody → Record
  | .status st => { r with status := st }
  | .full p =>
    r.fields.foldl (fun u f => if (u.field? f.1).isNone then u.setField f.1 f.2 else u) (p.toRecord r.id)

/-- Changes the first record that has the id. -/
def replaceFirst (id : String) (f : Record → Record) : List Record → List Record
  | [] => []
  | r :: rs => if r.id = id then f r :: rs else r :: replaceFirst id f rs

def update (kind : Kind) (id : String) (body : UpdateBody) : Store → Except StoreError Record × Store :=
  call .update (kind.name ++ "/" ++ id) fun s =>
    match s.find? kind id with
    | none => (.error (.notFound kind id), s)
    | some r =>
      (.ok (updated r body),
        s.setRecords kind (replaceFirst id (updated · body) (s.records.get kind)))

/-- A record after a bulk edit. -/
def edited (edit : BulkEdit) (r : Record) : Record :=
  match edit.field with
  | .tags => { r with tags := edit.apply r.tags }
  | .scopes => { r with scopes := edit.apply r.scopes }

def bulkUpdate (kind : Kind) (ids : List String) (edit : BulkEdit) : Store → Except StoreError Nat × Store :=
  call .bulkUpdate s!"{kind.name} x{ids.length}" fun s =>
    let rs := s.records.get kind
    (.ok (rs.filter fun r => ids.contains r.id).length,
      s.setRecords kind (rs.map fun r => if ids.contains r.id then edited edit r else r))

/-- Reverting is only noted in the log. -/
def revert (id : String) : Store → Except StoreError Unit × Store :=
  call .revert id fun s => (.ok (), s)

def listScopes : Store → Except StoreError (List String) × Store :=
  call .listScopes "" fun s => (.ok s.scopes, s)

def listActors : Store → Except StoreError (List String) × Store :=
  call .listActors "" fun s => (.ok s.actors, s)

def spoken {α : Type} (a : Except StoreError α × Store) : Except String α × Store :=
  (a.1.mapError StoreError.message, a.2)

/-- The store as a record service. -/
def service : Service Store where
  query kind filter s := spoken (query kind filter s)
  get kind id s := spoken (get kind id s)
  create p s := spoken (create p s)
  update kind id body s := spoken (update kind id body s)
  bulkUpdate kind ids edit s := spoken (bulkUpdate kind ids edit s)
  revert id s := spoken (revert id s)
  listScopes s := spoken (listScopes s)
  listActors s := spoken (listActors s)

end Store

end RecordDesk
