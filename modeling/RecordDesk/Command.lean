import RecordDesk.Bulk
import RecordDesk.Form.Payload
import RecordDesk.Text.Quoted

/-!
Deferred calls to the record service. A tab only ever returns commands; whoever runs them asks a
`Service` and hands the one `Delivery` that each command yields back to the tab.
-/

namespace RecordDesk

/-- What a command is for. A tab marks the slot pending while its command is under way. -/
inductive Slot where
  | load
  | detail
  | save
  | confirm
  | bulk
  | scopes
  | actors
  | candidates
  deriving DecidableEq

namespace Slot

def all : List Slot := [load, detail, save, confirm, bulk, scopes, actors, candidates]

def name : Slot → String
  | load => "load"
  | detail => "detail"
  | save => "save"
  | confirm => "confirm"
  | bulk => "bulk"
  | scopes => "scopes"
  | actors => "actors"
  | candidates => "candidates"

def ofName? (s : String) : Option Slot := all.find? (·.name == s)

end Slot

inductive RequestState where
  | idle
  | pending
  | failed (message : String)
  deriving DecidableEq, Inhabited

def RequestState.isPending : RequestState → Bool
  | pending => true
  | _ => false

/-- The state of every slot. -/
structure Requests where
  load : RequestState
  detail : RequestState
  save : RequestState
  confirm : RequestState
  bulk : RequestState
  scopes : RequestState
  actors : RequestState
  candidates : RequestState
  deriving DecidableEq

namespace Requests

def ofFn (f : Slot → RequestState) : Requests :=
  ⟨f .load, f .detail, f .save, f .confirm, f .bulk, f .scopes, f .actors, f .candidates⟩

def idle : Requests := ofFn fun _ => .idle

def get (r : Requests) : Slot → RequestState
  | .load => r.load
  | .detail => r.detail
  | .save => r.save
  | .confirm => r.confirm
  | .bulk => r.bulk
  | .scopes => r.scopes
  | .actors => r.actors
  | .candidates => r.candidates

def set (r : Requests) (s : Slot) (x : RequestState) : Requests :=
  match s with
  | .load => { r with load := x }
  | .detail => { r with detail := x }
  | .save => { r with save := x }
  | .confirm => { r with confirm := x }
  | .bulk => { r with bulk := x }
  | .scopes => { r with scopes := x }
  | .actors => { r with actors := x }
  | .candidates => { r with candidates := x }

def isPending (r : Requests) (s : Slot) : Bool := (r.get s).isPending

def anyPending (r : Requests) : Bool := Slot.all.any r.isPending

@[simp] theorem get_ofFn (f : Slot → RequestState) (s : Slot) : (ofFn f).get s = f s := by
  cases s <;> rfl

@[simp] theorem get_idle (s : Slot) : idle.get s = .idle := get_ofFn _ s

@[simp] theorem get_set_self (r : Requests) (s : Slot) (x : RequestState) : (r.set s x).get s = x := by
  cases s <;> rfl

theorem get_set_ne {s t : Slot} (h : t ≠ s) (r : Requests) (x : RequestState) :
    (r.set s x).get t = r.get t := by
  cases s <;> cases t <;> first | rfl | exact absurd rfl h

end Requests

structure QueryFilter where
  search : String
  includeArchived : Bool
  deriving DecidableEq

inductive UpdateBody where
  | full (p : Payload)
  | status (s : Status)

inductive Request where
  | query (kind : Kind) (filter : QueryFilter)
  | get (kind : Kind) (id : String)
  | create (p : Payload)
  | update (kind : Kind) (id : String) (body : UpdateBody)
  | bulkUpdate (kind : Kind) (ids : List String) (edit : BulkEdit)
  | revert (id : String)
  | listScopes
  | listActors

/-- A few words that name a request. -/
def Request.describe : Request → String
  | .query kind filter => s!"query {kind.name} {Text.quoted filter.search}"
  | .get kind id => s!"get {kind.name}/{id}"
  | .create p => s!"create {p.kind.name}"
  | .update kind id _ => s!"update {kind.name}/{id}"
  | .bulkUpdate kind ids _ => s!"bulk update {kind.name} x{ids.length}"
  | .revert id => s!"revert history/{id}"
  | .listScopes => "list scopes"
  | .listActors => "list actors"

/-- The request changes what the service holds. -/
def Request.isMutating : Request → Bool
  | .create _ => true
  | .update _ _ _ => true
  | .bulkUpdate _ _ _ => true
  | .revert _ => true
  | _ => false

inductive Answer where
  | records (rs : List Record)
  | record (r : Record)
  | names (ns : List String)
  | updated (n : Nat)
  | reverted

structure Command where
  tab : Kind
  slot : Slot
  generation : Nat
  request : Request

/-- The answer to a command, addressed as the command is, or the message of a failure. -/
structure Delivery where
  tab : Kind
  slot : Slot
  generation : Nat
  outcome : Except String Answer

/-- The record service as commands see it, over a state of its own. Each entry is one call. -/
structure Service (σ : Type) where
  query : Kind → QueryFilter → σ → Except String (List Record) × σ
  get : Kind → String → σ → Except String Record × σ
  create : Payload → σ → Except String Record × σ
  update : Kind → String → UpdateBody → σ → Except String Record × σ
  bulkUpdate : Kind → List String → BulkEdit → σ → Except String Nat × σ
  revert : String → σ → Except String Unit × σ
  listScopes : σ → Except String (List String) × σ
  listActors : σ → Except String (List String) × σ

namespace Service

variable {σ : Type}

/-- Makes the call that a request stands for. -/
def ask (g : Service σ) (r : Request) (s : σ) : Except String Answer × σ :=
  match r with
  | .query kind filter => let (a, s) := g.query kind filter s; (a.map .records, s)
  | .get kind id => let (a, s) := g.get kind id s; (a.map .record, s)
  | .create p => let (a, s) := g.create p s; (a.map .record, s)
  | .update kind id body => let (a, s) := g.update kind id body s; (a.map .record, s)
  | .bulkUpdate kind ids edit => let (a, s) := g.bulkUpdate kind ids edit s; (a.map .updated, s)
  | .revert id => let (a, s) := g.revert id s; (a.map fun _ => .reverted, s)
  | .listScopes => let (a, s) := g.listScopes s; (a.map .names, s)
  | .listActors => let (a, s) := g.listActors s; (a.map .names, s)

end Service

/-- Runs a command against a service. -/
def Command.invoke {σ : Type} (c : Command) (g : Service σ) (s : σ) : Delivery × σ :=
  let (outcome, s) := g.ask c.request s
  (⟨c.tab, c.slot, c.generation, outcome⟩, s)

end RecordDesk
