import RecordDesk.Proofs.Tab.OpenForm
import RecordDesk.Proofs.Tab.Permissions

/-!
A desk is six tabs that know nothing of each other. Of what happens to the desk each tab has a share:
the viewport, an activation whenever the tab is turned to, the keys that come while it is active and
that the desk does not keep, and the deliveries addressed to it. Whatever else happens in between, the
tab is as if it had met with its share and nothing else, and has issued the same commands
(`tabs_independent`).

For one input this is `serves_take`; it holds because a step of the desk puts back at most one tab, and
because a tab only issues commands of its own kind (`tab_of_command`). A run is those steps one after
the other.
-/

namespace RecordDesk

/-- Everything that can happen to a desk. -/
inductive DeskInput where
  | start
  | press (k : Key)
  | dispatch (order : DeskOrder)
  | viewport (height : Nat)
  | deliver (e : Delivery)

namespace Desk

def take (d : Desk) : DeskInput → DeskStep
  | .start => d.start
  | .press k => d.press k
  | .dispatch order => d.dispatch order
  | .viewport height => ⟨d.setViewport height, [], []⟩
  | .deliver e => d.deliver e

def run (d : Desk) (is : List DeskInput) : Desk := is.foldl (fun d i => (d.take i).desk) d

/-- All commands that a desk returns on some inputs, the oldest first. -/
def issued (d : Desk) : List DeskInput → List Command
  | [] => []
  | i :: is => (d.take i).commands ++ (d.take i).desk.issued is

/-! ## The share of a tab -/

/-- A key that does not reach the active tab: one to quit, always, and those to the neighbours, unless
the tab is modal. -/
def keeps (d : Desk) (k : Key) : Bool :=
  k = .ctrl 'q' || (!d.activeTab.isModal && (k = .ctrl 'n' || k = .ctrl 'p'))

/-- The tab that an input starts or switches to. -/
def turnsTo? (d : Desk) : DeskInput → Option Kind
  | .start => some d.active
  | .dispatch .nextTab => some d.active.next
  | .dispatch .previousTab => some d.active.previous
  | .dispatch (.selectTab kind) => some kind
  | .press k =>
    if d.activeTab.isModal then none
    else if k = .ctrl 'n' then some d.active.next
    else if k = .ctrl 'p' then some d.active.previous
    else none
  | _ => none

/-- What an input of the desk is to the tab of a kind. -/
def share (d : Desk) (kind : Kind) (i : DeskInput) : List TabEvent :=
  (if d.turnsTo? i = some kind then [.input .activate] else []) ++
    match i with
    | .viewport height => [.input (.viewport height)]
    | .press k => if d.active = kind ∧ d.keeps k = false then [.input (.press k)] else []
    | .deliver e => if e.tab = kind then [.deliver e] else []
    | _ => []

/-- What all inputs are to the tab of a kind, in order. -/
def shares (d : Desk) (kind : Kind) : List DeskInput → List TabEvent
  | [] => []
  | i :: is => d.share kind i ++ (d.take i).desk.shares kind is

end Desk

namespace Tab

/-- A tab only issues commands of its own kind. -/
theorem tab_of_command {t : Tab} {e : TabEvent} {c : Command} (hc : c ∈ (t.handle e).2) : c.tab = t.kind := by
  rcases command_cases hc with rfl | rfl | ⟨k, rfl⟩
  · exact kind_handle t e
  · rfl
  · have sends := (deed_press t k).1.sends
    change c ∈ (t.press k).2 at hc
    generalize (t.press k).2 = cs at sends hc
    cases sends with
    | nothing => cases hc
    | rows | candidates | record | scopes | save | confirm | bulk =>
      obtain rfl := List.mem_singleton.mp hc
      rfl

theorem issued_append (t : Tab) (es fs : List TabEvent) :
    t.issued (es ++ fs) = t.issued es ++ (t.onward es).issued fs := by
  induction es generalizing t with
  | nil => rfl
  | cons e es ih =>
    show (t.handle e).2 ++ (t.handle e).1.issued (es ++ fs) = _
    rw [ih, ← List.append_assoc]
    rfl

theorem onward_append (t : Tab) (es fs : List TabEvent) :
    t.onward (es ++ fs) = (t.onward es).onward fs := List.foldl_append

theorem kind_onward (t : Tab) (es : List TabEvent) : (t.onward es).kind = t.kind :=
  List.foldlRecOn (motive := fun u : Tab => u.kind = t.kind) es _ rfl
    fun u hu e _ => (kind_handle u e).trans hu

end Tab

namespace Desk

/-- Every tab stands in its place. -/
def Placed (d : Desk) : Prop := ∀ kind, (d.tab kind).kind = kind

/-- To the tab of a kind, a step of the desk is these events, and nothing else. -/
structure Serves (d : Desk) (kind : Kind) (es : List TabEvent) (r : DeskStep) : Prop where
  tab : r.desk.tab kind = (d.tab kind).onward es
  commands : r.commands.filter (·.tab = kind) = (d.tab kind).issued es

variable {d : Desk}

/-! ## One input -/

theorem tab_setTab (d : Desk) (own kind : Kind) (t : Tab) :
    (d.setTab own t).tab kind = if own = kind then t else d.tab kind := by
  split
  · next h =>
    subst h
    exact PerKind.get_set_self _ _ _
  · next h => exact PerKind.get_set_ne (Ne.symm h) _ _

/-- When something happens to one tab, the others do not notice. -/
theorem serves_stepTab (h : d.Placed) (own kind : Kind) (e : TabEvent) :
    d.Serves kind (if own = kind then [e] else []) (d.stepTab own ((d.tab own).handle e)) := by
  have htab : ∀ c ∈ ((d.tab own).handle e).2, c.tab = own := fun c hc =>
    (Tab.tab_of_command hc).trans (h own)
  have hdesk := tab_setTab d own kind ((d.tab own).handle e).1
  split
  · next heq =>
    subst heq
    refine ⟨hdesk.trans (if_pos rfl), ?_⟩
    show ((d.tab own).handle e).2.filter _ = ((d.tab own).handle e).2 ++ []
    rw [List.append_nil, List.filter_eq_self]
    exact fun c hc => decide_eq_true (htab c hc)
  · next hne =>
    refine ⟨hdesk.trans (if_neg hne), ?_⟩
    refine List.filter_eq_nil_iff.2 fun c hc => ?_
    rw [htab c hc, decide_eq_true_iff]
    exact hne

/-- The status line, the active tab and the events are not part of any tab. -/
theorem Serves.congr {kind : Kind} {es : List TabEvent} {r s : DeskStep} (h : d.Serves kind es r)
    (tabs : s.desk.tabs = r.desk.tabs) (commands : s.commands = r.commands) : d.Serves kind es s :=
  ⟨(congrArg (PerKind.get · kind) tabs).trans h.tab, commands ▸ h.commands⟩

theorem serves_showTab (h : d.Placed) (own kind : Kind) :
    d.Serves kind (if own = kind then [.input .activate] else []) (d.showTab own) :=
  (serves_stepTab h own kind (.input .activate)).congr rfl rfl

theorem serves_nothing {r : DeskStep} (kind : Kind) (tabs : r.desk.tabs = d.tabs)
    (commands : r.commands = []) : d.Serves kind [] r :=
  ⟨congrArg (PerKind.get · kind) tabs, congrArg (List.filter _) commands⟩

theorem serves_dispatch (h : d.Placed) (kind : Kind) (order : DeskOrder) :
    d.Serves kind (d.share kind (.dispatch order)) (d.dispatch order) := by
  cases order with
  | nextTab | previousTab | selectTab =>
    simp only [share, turnsTo?, Option.some.injEq, List.append_nil]
    exact serves_showTab h _ kind
  | setStatus message => exact serves_nothing kind rfl rfl
  | clearStatus => exact serves_nothing kind rfl rfl
  | quit => exact serves_nothing kind rfl rfl

/-- A key that stands for an order is to the tabs what the order is, and reaches none of them. -/
theorem share_of_order {k : Key} {order : DeskOrder} (h : d.order? k = some order) (kind : Kind) :
    d.share kind (.press k) = d.share kind (.dispatch order) := by
  unfold order? at h
  split at h
  · cases h
    simp [share, turnsTo?, keeps]
  · split at h
    · cases h
    · next hmodal =>
      cases h
      simp [share, turnsTo?, keeps, hmodal]
  · split at h
    · cases h
    · next hmodal =>
      cases h
      simp [share, turnsTo?, keeps, hmodal]
  · cases h

/-- Every other key reaches the active tab. -/
theorem share_of_no_order {k : Key} (h : d.order? k = none) (kind : Kind) :
    d.share kind (.press k) = if d.active = kind then [.input (.press k)] else [] := by
  unfold order? at h
  split at h
  · cases h
  · split at h
    · next hmodal => simp [share, turnsTo?, keeps, hmodal]
    · cases h
  · split at h
    · next hmodal => simp [share, turnsTo?, keeps, hmodal]
    · cases h
  · next hq hn hp => simp_all [share, turnsTo?, keeps]

theorem serves_press (h : d.Placed) (kind : Kind) (k : Key) :
    d.Serves kind (d.share kind (.press k)) (d.press k) := by
  unfold press
  split
  · next order ho =>
    rw [share_of_order ho]
    exact serves_dispatch h kind order
  · next ho =>
    rw [share_of_no_order ho]
    exact serves_stepTab h d.active kind (.input (.press k))

theorem serves_deliver (h : d.Placed) (kind : Kind) (e : Delivery) :
    d.Serves kind (d.share kind (.deliver e)) (d.deliver e) := by
  have hstep := serves_stepTab h e.tab kind (.deliver e)
  unfold deliver
  dsimp only
  split
  · exact hstep
  · split
    · exact hstep
    · exact hstep.congr rfl rfl

/-- A delivery reaches the tab that it is addressed to. -/
theorem tab_deliver (h : d.Placed) (kind : Kind) (e : Delivery) :
    (d.deliver e).desk.tab kind = if e.tab = kind then ((d.tab kind).deliver e).1 else d.tab kind := by
  rw [(serves_deliver h kind e).tab]
  show (d.tab kind).onward (if e.tab = kind then [.deliver e] else []) = _
  split
  · rfl
  · rfl

/-- What an input does to the tab of a kind is what the tab's share of it does. -/
theorem serves_take (h : d.Placed) (kind : Kind) (i : DeskInput) :
    d.Serves kind (d.share kind i) (d.take i) := by
  cases i with
  | start =>
    simp only [share, turnsTo?, Option.some.injEq, List.append_nil]
    exact serves_stepTab h d.active kind (.input .activate)
  | press k => exact serves_press h kind k
  | dispatch order => exact serves_dispatch h kind order
  | viewport height => exact ⟨PerKind.get_map _ _ _, rfl⟩
  | deliver e => exact serves_deliver h kind e

theorem Placed.take (h : d.Placed) (i : DeskInput) : (d.take i).desk.Placed := fun kind => by
  rw [(serves_take h kind i).tab, Tab.kind_onward]
  exact h kind

/-! ## Runs -/

theorem tab_run (h : d.Placed) (kind : Kind) (is : List DeskInput) :
    (d.run is).tab kind = (d.tab kind).onward (d.shares kind is) := by
  -- The shares depend on the desk at each step, so the induction is over all desks at once.
  induction is generalizing d with
  | nil => rfl
  | cons i is ih =>
    show ((d.take i).desk.run is).tab kind = (d.tab kind).onward (d.share kind i ++ _)
    rw [ih (h.take i), (serves_take h kind i).tab, Tab.onward_append]

theorem Placed.run (h : d.Placed) (is : List DeskInput) : (d.run is).Placed := fun kind => by
  rw [tab_run h, Tab.kind_onward]
  exact h kind

theorem filter_issued (h : d.Placed) (kind : Kind) (is : List DeskInput) :
    (d.issued is).filter (·.tab = kind) = (d.tab kind).issued (d.shares kind is) := by
  induction is generalizing d with
  | nil => rfl
  | cons i is ih =>
    show ((d.take i).commands ++ (d.take i).desk.issued is).filter _ =
      (d.tab kind).issued (d.share kind i ++ _)
    rw [List.filter_append, ih (h.take i), (serves_take h kind i).commands, (serves_take h kind i).tab,
      Tab.issued_append]

theorem placed_new (active : Kind) : (new active).Placed := fun kind =>
  congrArg Tab.kind (PerKind.get_ofFn Tab.new kind)

/-- Whatever happens to a desk, the tab of a kind is in the state that its share brings a tab to which
stands alone; the commands that the desk returned for it are those that it issued there, in the same
order; and what comes of a command goes to the tab that the command names, and to no other. -/
theorem tabs_independent (active : Kind) (is : List DeskInput) (kind : Kind) :
    let d := (new active).run is
    let es := (new active).shares kind is
    d.tab kind = Tab.after kind es ∧
      ((new active).issued is).filter (·.tab = kind) = (Tab.new kind).issued es ∧
      ∀ {σ : Type} (c : Command) (g : Service σ) (s : σ), (d.deliver (c.invoke g s).1).desk.tab kind =
        if c.tab = kind then ((d.tab kind).deliver (c.invoke g s).1).1 else d.tab kind := by
  intro d es
  have htab := tab_run (placed_new active) kind is
  have hissued := filter_issued (placed_new active) kind is
  have hnew : (new active).tab kind = Tab.new kind := PerKind.get_ofFn Tab.new kind
  rw [hnew] at htab hissued
  exact ⟨htab, hissued, fun c g s => tab_deliver ((placed_new active).run is) kind (c.invoke g s).1⟩

end Desk

end RecordDesk
