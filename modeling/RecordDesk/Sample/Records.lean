import RecordDesk.Number.Word
import RecordDesk.Record.Basic
import RecordDesk.Sample.Generator
import RecordDesk.Text.Lower
import RecordDesk.Text.Split

/-!
Plausible records of every kind, drawn from a seed. Ids and counts are numbers of 64 bits.
-/

namespace RecordDesk

namespace Sample

def entityNames : List String :=
  ["Alpha", "Beacon", "Cobalt", "Delta", "Ember", "Fjord", "Granite", "Harbor", "Iris", "Juniper",
    "Kestrel", "Lumen", "Meridian", "Nova"]

def entityTypes : List String := ["person", "organization", "project", "place", "concept"]

def tagNames : List String :=
  ["ai", "ops", "research", "draft", "urgent", "family", "finance", "health"]

def scopeNames : List String := ["personal", "work", "shared", "archive"]

def relationTypes : List String := ["knows", "works-with", "depends-on", "part-of", "mentions"]

def logTypes : List String := ["note", "meeting", "decision", "observation"]

def actorNames : List String := ["cli", "agent", "importer", "web"]

def actionNames : List String := ["create", "update", "archive"]

def words : List String :=
  ["review", "draft", "sync", "plan", "migrate", "index", "backfill", "audit", "ship", "triage",
    "release", "schema", "notes", "weekly", "quarterly", "budget", "roadmap", "incident", "retro",
    "summary"]

/-- The moment before which all samples were last changed. -/
def latest : Instant := ⟨⟨2026, 1, 15⟩, 9, 30, 0, 0, 0⟩

end Sample

/-- A generator that also counts the ids it has given. -/
structure Sampler where
  generator : Generator
  nextId : UInt64
  deriving DecidableEq

/-- What is drawn, or nothing when a count leaves its word, which stops the program. -/
abbrev Sampling := StateT Sampler Option

namespace Sampler

def ofSeed (seed : UInt64) : Sampler := ⟨.ofSeed (if seed = 0 then 1 else seed), 1⟩

def draw {α : Type} (f : Generator → α × Generator) : Sampling α := fun s =>
  let (x, g) := f s.generator
  some (x, { s with generator := g })

def below (n : Nat) : Sampling Nat := draw (Generator.below n)

def pick (items : List String) : Sampling String := draw (Generator.pick items)

/-- The next id. The one after it has to have a number, too. -/
def newId (kind : String) : Sampling String := fun s =>
  (fit64? (s.nextId.toNat + 1)).map fun n => (s!"{kind}-{s.nextId.toNat}", { s with nextId := .ofNat n })

/-- A count that has to fit 64 bits. -/
def fit (n : Nat) : Sampling Nat := fun s => (fit64? n).map fun n => (n, s)

/-- As many results as asked for, one after the other. -/
def times {α : Type} (n : Nat) (x : Sampling α) : Sampling (List α) := (List.replicate n ()).mapM fun _ => x

def tags : Sampling NameSet := do
  let n ← below 3
  return .ofList (← times n (pick Sample.tagNames))

/-- The list without the repetitions that stand side by side. -/
def withoutRuns : List String → List String
  | [] => []
  | x :: xs =>
    match withoutRuns xs with
    | [] => [x]
    | y :: ys => if x = y then y :: ys else x :: y :: ys

def capitalized (s : String) : String :=
  match s.toList with
  | [] => ""
  | c :: cs => .ofList (c.toUpper :: cs)

def phrase (n : Nat) : Sampling String := do
  return capitalized (Text.joinWith " " (withoutRuns (← times (max n 1) (pick Sample.words))))

/-- A moment within ninety days. -/
def stamp : Sampling Instant := do return Sample.latest.minusMinutes (← below (60 * 24 * 90))

def entityNamed (name : String) : Sampling Record := do
  let id ← newId "ent"
  let type ← pick Sample.entityTypes
  let tags ← tags
  let scope ← pick Sample.scopeNames
  let rank ← below 100
  let at_ ← stamp
  return { (Record.named .entities id name).withFields [("name", name), ("type", type)] with
    tags := tags, scopes := .ofList [scope],
    metadata := [("rank", .int (Int64.ofNat rank))], updatedAt := some at_ }

def entity : Sampling Record := do
  let name ← pick Sample.entityNames
  let n ← below 900
  entityNamed s!"{name} {n + 100}"

def relationship (source target : Record) : Sampling Record := do
  let id ← newId "rel"
  let type ← pick Sample.relationTypes
  let weight ← below 10
  let at_ ← stamp
  return { (Record.named .relationships id type).withFields
      [("relationship_type", type), ("source_id", source.id), ("source_name", source.title),
        ("target_id", target.id), ("target_name", target.title)] with
    metadata := [("weight", .int (Int64.ofNat weight))], updatedAt := some at_ }

def job : Sampling Record := do
  let id ← newId "job"
  let title ← phrase 3
  let priority ← pick (Priority.all.map Priority.name)
  let description ← phrase 6
  let tags ← tags
  let at_ ← stamp
  return { (Record.named .jobs id title).withFields
      [("title", title), ("description", description), ("priority", priority)] with
    tags := tags, updatedAt := some at_ }

def log : Sampling Record := do
  let id ← newId "log"
  let content ← phrase 8
  let type ← pick Sample.logTypes
  let at_ ← stamp
  return { (Record.named .logs id content).withFields [("log_type", type), ("content", content)] with
    updatedAt := some at_ }

/-- The words of a phrase in lower case, tied by hyphens. -/
def slug (s : String) : String := (Text.lower s).map fun c => if c == ' ' then '-' else c

def protocol : Sampling Record := do
  let id ← newId "proto"
  let name := slug (← phrase 2)
  let title ← phrase 3
  let content ← phrase 10
  let version ← below 5
  let at_ ← stamp
  return { (Record.named .protocols id name).withFields
      [("name", name), ("title", title), ("version", s!"1.{version}"), ("content", content)] with
    updatedAt := some at_ }

def history (subject : Record) : Sampling Record := do
  let id ← newId "hist"
  let action ← pick Sample.actionNames
  let actor ← pick Sample.actorNames
  let at_ ← stamp
  return { (Record.named .history id s!"{action} {subject.kind.name}/{subject.id}").withFields
      [("resource", subject.kind.name), ("record_id", subject.id), ("action", action), ("actor", actor)] with
    updatedAt := some at_ }

/-- A relationship between every two neighbours. -/
def chain : List Record → Sampling (List Record)
  | a :: b :: rest => do
    let r ← relationship a b
    return r :: (← chain (b :: rest))
  | _ => return []

/-- Records of a kind. Relationships tie entities, and history tells of jobs, drawn before them. -/
def records (kind : Kind) (count : Nat) : Sampling (List Record) :=
  match kind with
  | .entities => times count entity
  | .jobs => times count job
  | .logs => times count log
  | .protocols => times count protocol
  | .relationships => do chain (← times (← fit (count + 1)) entity)
  | .history => do (← times count job).mapM history

end Sampler

end RecordDesk
