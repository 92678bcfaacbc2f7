import RecordDesk.Tab.Basic

/-!
What deliveries do to a tab. A delivery for the list or for the picker's candidates counts only when
it carries the generation of the newest such query.
-/

namespace RecordDesk.Tab

/-- The generation that a delivery in a slot has to carry, in the slots where that matters. -/
def currentGeneration? (t : Tab) : Slot → Option Nat
  | .load => some t.generation
  | .candidates => some t.picker.generation
  | _ => none

def isStale (t : Tab) (slot : Slot) (generation : Nat) : Bool :=
  (t.currentGeneration? slot).any (· != generation)

/-- A failure ends every request; the slot that failed keeps the message. -/
def failAll (t : Tab) (slot : Slot) (message : String) : Tab :=
  { t with requests := Requests.idle.set slot (.failed message), error := some message }

/-- The rows of the list; without a search they are the new catalog, too. -/
def applyRows (t : Tab) (rs : List Record) : Tab :=
  (if t.search.isEmpty then { t with catalog := rs } else t).setRows rs

def applyCandidates (t : Tab) (rs : List Record) : Tab :=
  let p := if t.picker.query.isEmpty then { t.picker with catalog := rs } else t.picker
  { t with picker := p.setCandidates rs }

/-- Shows the newer state of the record in detail. -/
def refreshDetail (t : Tab) (r : Record) : Tab :=
  if t.detail.any fun d => d.id == r.id then { t with detail := some r } else t

/-- The open form is the one with this token. -/
def ownsForm (t : Tab) (token : Nat) : Bool :=
  token == t.formToken && t.form.isSome && match t.view with
    | .add => true
    | .edit => true
    | .relate .details => true
    | _ => false

/-- A saved record closes the form that it was saved from. -/
def saved (t : Tab) (token : Nat) (r : Record) : Tab × List Command :=
  let owns := t.ownsForm token
  let t := { t with notice := some s!"saved {r.kind.noun} {r.title}" }
  if owns then
    { t with
      form := none, editors := [], picker := t.picker.restart, detail := some r, view := .detail }.reload
  else (t.refreshDetail r).reload

def applyAnswer (t : Tab) (slot : Slot) (generation : Nat) (a : Answer) : Tab × List Command :=
  match slot, a with
  | .load, .records rs => (t.applyRows rs, [])
  | .candidates, .records rs => (t.applyCandidates rs, [])
  | .detail, .record r => (t.refreshDetail r, [])
  | .save, .record r => t.saved generation r
  | .confirm, .record r => ({ t with notice := some ("archived " ++ r.title) }.refreshDetail r).reload
  | .confirm, .reverted => { t with notice := some "change reverted" }.reload
  | .bulk, .updated n =>
    { t with
      marks := .empty
      notice := some (s!"updated {n} " ++ if n = 1 then "record" else "records") }.reload
  | .scopes, .names ns => ({ t with knownScopes := ns }, [])
  | .actors, .names ns => ({ t with knownActors := ns }, [])
  | _, _ => (t, [])

def deliver (t : Tab) (d : Delivery) : Tab × List Command :=
  if t.isStale d.slot d.generation then (t, [])
  else match d.outcome with
    | .error message => (t.failAll d.slot message, [])
    | .ok a => { t with requests := t.requests.set d.slot .idle }.applyAnswer d.slot d.generation a

end RecordDesk.Tab
