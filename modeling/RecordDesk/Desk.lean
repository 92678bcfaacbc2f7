import RecordDesk.Tab.Deliveries
import RecordDesk.Tab.Keys

/-!
The desk: one tab for each kind of record, one of them active, and a status line. Keys go to the
active tab, deliveries to the tab that their command came from.
-/

namespace RecordDesk

inductive DeskOrder where
  | nextTab
  | previousTab
  | selectTab (kind : Kind)
  | setStatus (message : String)
  | clearStatus
  | quit

inductive DeskEvent where
  | tabChanged (kind : Kind)
  | statusUpdated (message : String)
  | statusCleared
  | quitRequested
  deriving DecidableEq

/-- The tab to the right, counting round. -/
def Kind.next : Kind → Kind
  | entities => relationships
  | relationships => jobs
  | jobs => logs
  | logs => protocols
  | protocols => history
  | history => entities

/-- The tab to the left, counting round. -/
def Kind.previous : Kind → Kind
  | entities => history
  | relationships => entities
  | jobs => relationships
  | logs => jobs
  | protocols => logs
  | history => protocols

structure Desk where
  active : Kind
  statusLine : Option String
  quit : Bool
  tabs : PerKind Tab

/-- The desk after an event, with the commands to run and the events that it caused. -/
structure DeskStep where
  desk : Desk
  commands : List Command
  events : List DeskEvent

namespace Desk

def new (start : Kind) : Desk := ⟨start, none, false, .ofFn Tab.new⟩

def tab (d : Desk) (k : Kind) : Tab := d.tabs.get k

def activeTab (d : Desk) : Tab := d.tab d.active

def setTab (d : Desk) (k : Kind) (t : Tab) : Desk := { d with tabs := d.tabs.set k t }

/-- Puts back a tab that has moved on. -/
def stepTab (d : Desk) (k : Kind) (r : Tab × List Command) : DeskStep := ⟨d.setTab k r.1, r.2, []⟩

/-- Loads the active tab, unless it has been shown before. -/
def start (d : Desk) : DeskStep := d.stepTab d.active d.activeTab.activate

def setViewport (d : Desk) (height : Nat) : Desk := { d with tabs := d.tabs.map (·.setViewport height) }

def showTab (d : Desk) (k : Kind) : DeskStep :=
  { { d with active := k }.start with events := [.tabChanged k] }

def dispatch (d : Desk) : DeskOrder → DeskStep
  | .nextTab => d.showTab d.active.next
  | .previousTab => d.showTab d.active.previous
  | .selectTab k => d.showTab k
  | .setStatus message => ⟨{ d with statusLine := some message }, [], [.statusUpdated message]⟩
  | .clearStatus => ⟨{ d with statusLine := none }, [], [.statusCleared]⟩
  | .quit => ⟨{ d with quit := true }, [], [.quitRequested]⟩

/-- The order that the desk itself takes from a key. Tabs do not change while one is modal. -/
def order? (d : Desk) (k : Key) : Option DeskOrder :=
  match k with
  | .ctrl 'q' => some .quit
  | .ctrl 'n' => if d.activeTab.isModal then none else some .nextTab
  | .ctrl 'p' => if d.activeTab.isModal then none else some .previousTab
  | _ => none

def press (d : Desk) (k : Key) : DeskStep :=
  match d.order? k with
  | some order => d.dispatch order
  | none => d.stepTab d.active (d.activeTab.press k)

/-- Hands a delivery to its tab. A failure in a tab that is not active also shows in the status
line. -/
def deliver (d : Desk) (e : Delivery) : DeskStep :=
  let r := d.stepTab e.tab ((d.tab e.tab).deliver e)
  match e.outcome with
  | .ok _ => r
  | .error message =>
    if e.tab = d.active then r
    else { r.desk.dispatch (.setStatus (e.tab.label ++ ": " ++ message)) with commands := r.commands }

end Desk

/-- A desk with the timer of its status line. Each new message gets a timer of its own, numbered by
`token`; only the latest one may clear the line. The numbers do not go beyond those of a word. -/
structure Session where
  desk : Desk
  token : Nat

namespace Session

def setsStatus : DeskEvent → Bool
  | .statusUpdated _ => true
  | _ => false

/-- The largest number that a timer can have. -/
def lastToken : Nat := 2 ^ 64 - 1

/-- Takes over a step of the desk, and counts a new timer when the step set a message. -/
def follow (s : Session) (r : DeskStep) : Session :=
  ⟨r.desk, if r.events.any setsStatus then min (s.token + 1) lastToken else s.token⟩

def press (s : Session) (k : Key) : Session × List Command :=
  let r := s.desk.press k
  (s.follow r, r.commands)

def deliver (s : Session) (e : Delivery) : Session × List Command :=
  let r := s.desk.deliver e
  (s.follow r, r.commands)

/-- The timer with a number runs out. -/
def timer (s : Session) (token : Nat) : Session :=
  if token = s.token then { s with desk := (s.desk.dispatch .clearStatus).desk } else s

end Session

end RecordDesk
