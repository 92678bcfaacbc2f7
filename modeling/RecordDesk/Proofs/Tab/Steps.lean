import RecordDesk.Proofs.Tab.Frames

/-!
What one step of a tab can do. Everything that happens to a tab is an input of its operator or a
delivery, and each of them is a few moves: a change that asks for nothing, a fresh query for the rows,
a fresh query for the picker, or a request in a slot that is free. The theorems on runs rest on these
four moves (`moves_take`, `move_applyAnswer`) and do not look into the handlers again.
-/

namespace RecordDesk

/-- What the operator, or the program around a tab, does to it. -/
inductive TabInput where
  | activate
  | reload
  | viewport (height : Nat)
  | press (k : Key)

/-- Everything that can happen to a tab. -/
inductive TabEvent where
  | input (i : TabInput)
  | deliver (d : Delivery)

/-- At most one request at a time is meant to be under way in these slots; queries for the rows and
for the picker's candidates follow each other freely instead. -/
def Slot.isGated : Slot → Bool
  | .load => false
  | .candidates => false
  | _ => true

theorem Slot.ne_load_of_isGated {slot : Slot} (h : slot.isGated = true) : slot ≠ .load := by
  rintro rfl
  exact Bool.false_ne_true h

/-- The requests that belong into a slot. -/
def Slot.admits : Slot → Request → Bool
  | .load, .query _ _ => true
  | .detail, .get _ _ => true
  | .save, .create _ => true
  | .save, .update _ _ (.full _) => true
  | .confirm, .update _ _ (.status _) => true
  | .confirm, .revert _ => true
  | .bulk, .bulkUpdate _ _ _ => true
  | .scopes, .listScopes => true
  | .actors, .listActors => true
  | .candidates, .query _ _ => true
  | _, _ => false

/-- The answers that a service can give to a request. -/
def Request.answeredBy : Request → Answer → Bool
  | .query _ _, .records _ => true
  | .get _ _, .record _ => true
  | .create _, .record _ => true
  | .update _ _ _, .record _ => true
  | .bulkUpdate _ _ _, .updated _ => true
  | .revert _, .reverted => true
  | .listScopes, .names _ => true
  | .listActors, .names _ => true
  | _, _ => false

theorem Request.answeredBy_of_ask {σ : Type} (g : Service σ) {r : Request} {s : σ} {a : Answer}
    (h : (g.ask r s).1 = .ok a) : r.answeredBy a = true := by
  have of_map {α : Type} {make : α → Answer} {e : Except String α}
      (hm : ∀ x, r.answeredBy (make x) = true) (h : e.map make = .ok a) : r.answeredBy a = true := by
    cases e with
    | error e => simp [Except.map] at h
    | ok x =>
      simp only [Except.map, Except.ok.injEq] at h
      rw [← h]
      exact hm x
  cases r with
  | query | get | create | update | bulkUpdate | revert | listScopes | listActors =>
    exact of_map (fun _ => rfl) h

/-- The delivery of an outcome to the tab that issued the command. -/
def Command.delivery (c : Command) (outcome : Except String Answer) : Delivery :=
  ⟨c.tab, c.slot, c.generation, outcome⟩

/-- The numbering of a tab's commands and the state of its slots. -/
structure Traffic where
  kind : Kind
  requests : Requests
  generation : Nat
  candidatesGeneration : Nat

/-- The part of a tab on which its commands and the answers to them depend. -/
structure Standing where
  traffic : Traffic
  search : String
  includeArchived : Bool
  rows : List Record

namespace Tab

def take (t : Tab) : TabInput → Tab × List Command
  | .activate => t.activate
  | .reload => t.reload
  | .viewport height => (t.setViewport height, [])
  | .press k => t.press k

def handle (t : Tab) : TabEvent → Tab × List Command
  | .input i => t.take i
  | .deliver d => t.deliver d

/-- The tab of a kind after some events, from its beginning. -/
def after (kind : Kind) (es : List TabEvent) : Tab :=
  es.foldl (fun t e => (t.handle e).1) (.new kind)

/-- What a new tab has and every event keeps, holds in every state that a tab comes to. -/
theorem after_induction {kind : Kind} {motive : Tab → Prop} (new : motive (new kind))
    (handle : ∀ t e, motive t → motive (t.handle e).1) (es : List TabEvent) : motive (after kind es) :=
  List.foldlRecOn es _ new fun t h e _ => handle t e h

theorem after_concat (kind : Kind) (es : List TabEvent) (e : TabEvent) :
    after kind (es ++ [e]) = ((after kind es).handle e).1 := List.foldl_append

def traffic (t : Tab) : Traffic := ⟨t.kind, t.requests, t.generation, t.picker.generation⟩

def standing (t : Tab) : Standing := ⟨t.traffic, t.search, t.includeArchived, t.rows⟩

/-- The query for what the list shows now. -/
def rowsQuery (t : Tab) : Command :=
  ⟨t.kind, .load, t.generation, .query t.kind ⟨t.search, t.includeArchived⟩⟩

/-- A request in a slot that is taken as free. -/
def start (t : Tab) (slot : Slot) (generation : Nat) (r : Request) : Tab × List Command :=
  ({ t with requests := t.requests.set slot .pending }, [⟨t.kind, slot, generation, r⟩])

/-- The moves that a step is made of. `u` is the tab before the command of the move goes out. -/
inductive Move (t : Tab) : Tab × List Command → Prop where
  | quiet {u : Tab} (h : u.standing = t.standing) : Move t (u, [])
  | load {u : Tab} (h : u.traffic = t.traffic) : Move t u.reload
  | candidates {u : Tab} (h : u.standing = t.standing) : Move t u.queryCandidates
  | request {u : Tab} {slot : Slot} {generation : Nat} {r : Request} (h : u.standing = t.standing)
      (gated : slot.isGated = true) (free : t.requests.isPending slot = false)
      (admits : slot.admits r = true) : Move t (u.start slot generation r)

/-- Moves one after the other. -/
inductive Moves : Tab → Tab × List Command → Prop where
  | refl (t : Tab) : Moves t (t, [])
  | step {t : Tab} {r s : Tab × List Command} (hr : Moves t r) (hs : Move r.1 s) :
      Moves t (s.1, r.2 ++ s.2)

theorem Move.moves {t : Tab} {r : Tab × List Command} (h : Move t r) : Moves t r :=
  Moves.step (.refl t) h

/-- What each move keeps, of the tab and of the commands up to then, several moves keep. -/
theorem Moves.preserves (P : Tab → List Command → Prop)
    (hmove : ∀ {t : Tab} {cs : List Command} {r : Tab × List Command},
      P t cs → Move t r → P r.1 (cs ++ r.2))
    {t : Tab} {r : Tab × List Command} (hm : Moves t r) {cs : List Command} (h : P t cs) :
    P r.1 (cs ++ r.2) := by
  induction hm with
  | refl =>
    rw [List.append_nil]
    exact h
  | step _ hs ih =>
    rw [← List.append_assoc]
    exact hmove ih hs

/-- Tabs of the same standing ask for the same rows. -/
theorem rowsQuery_of_standing {t u : Tab} (h : u.standing = t.standing) : u.rowsQuery = t.rowsQuery := by
  have hk : u.kind = t.kind := congrArg (·.traffic.kind) h
  have hg : u.generation = t.generation := congrArg (·.traffic.generation) h
  have hs : u.search = t.search := congrArg Standing.search h
  have ha : u.includeArchived = t.includeArchived := congrArg Standing.includeArchived h
  unfold rowsQuery
  rw [hk, hg, hs, ha]

/-! ## Small steps -/

theorem issue_of_free {t : Tab} {slot : Slot} (h : t.requests.isPending slot = false)
    (generation : Nat) (r : Request) : t.issue slot generation r = t.start slot generation r := by
  unfold issue
  rw [h]
  rfl

theorem move_issue {t u : Tab} {slot : Slot} {r : Request} (generation : Nat)
    (h : u.standing = t.standing) (gated : slot.isGated = true) (admits : slot.admits r = true) :
    Move t (u.issue slot generation r) := by
  cases hp : u.requests.isPending slot with
  | false =>
    have hr : u.requests = t.requests := congrArg (·.traffic.requests) h
    rw [issue_of_free hp]
    exact .request h gated (hr ▸ hp) admits
  | true =>
    unfold issue
    rw [if_pos hp]
    split
    · exact .quiet h
    · exact .quiet h

theorem move_setSearch (t : Tab) (search : String) : Move t (t.setSearch search) := .load rfl

theorem move_clearSearch (t : Tab) : Move t t.clearSearch := by
  unfold clearSearch
  split
  · exact .quiet rfl
  · exact move_setSearch t ""

theorem move_openDetail (t : Tab) : Move t t.openDetail := by
  unfold openDetail
  split
  · exact .quiet rfl
  · exact move_issue 0 rfl rfl rfl

theorem move_refreshScopes {t u : Tab} (h : u.standing = t.standing) : Move t u.refreshScopes := by
  unfold refreshScopes
  split
  · exact move_issue 0 h rfl rfl
  · exact .quiet h

theorem move_openAdd {t u : Tab} (h : u.standing = t.standing) : Move t u.openAdd := by
  unfold openAdd
  split
  · exact .quiet h
  · split
    · exact .candidates h
    · exact move_refreshScopes h

/-! ## Keys, view by view -/

theorem move_pressToggle (t : Tab) (choice : ToggleChoice) (k : Key) :
    Move t (t.pressToggle choice k) := by
  unfold pressToggle
  split
  case h_5 =>
    dsimp only
    split
    · exact move_openAdd rfl
    · exact .quiet rfl
  all_goals exact .quiet rfl

theorem move_openBulkPrompt (t : Tab) (field : BulkField) : Move t (t.openBulkPrompt field) := by
  unfold openBulkPrompt
  extract_lets supported
  split
  · exact .quiet rfl
  · split
    · exact .quiet rfl
    · exact .quiet rfl

theorem move_typeSearch (t : Tab) (k : Key) : Move t (t.typeSearch k) := by
  unfold typeSearch
  split
  · exact move_setSearch t _
  · exact .quiet rfl

theorem move_pressRows (t : Tab) (k : Key) : Move t (t.pressRows k) := by
  unfold pressRows
  split
  · split
    · exact .quiet rfl
    · exact .quiet rfl
  · exact .quiet rfl
  · exact move_openDetail t
  · split
    · exact move_setSearch t _
    · exact .quiet rfl
  · split
    · exact .quiet rfl
    · exact move_setSearch t _
  · exact move_clearSearch t
  · exact .load rfl
  · exact .load rfl
  · exact move_openBulkPrompt t _
  · exact move_openBulkPrompt t _
  · split
    · exact .quiet rfl
    · exact move_clearSearch t
  · split
    · split
      · exact .quiet rfl
      · exact .quiet rfl
    · exact move_typeSearch t _
  · exact move_typeSearch t _

theorem move_pressList (t : Tab) (k : Key) : Move t (t.pressList k) := by
  unfold pressList
  split
  · exact move_pressToggle t _ k
  · exact move_pressRows t k

theorem move_openConfirm (t : Tab) (action : ConfirmAction) (target : String) :
    Move t (t.openConfirm action target) := by
  unfold openConfirm
  split
  · exact .quiet rfl
  · exact .quiet rfl

theorem move_archiveDetail (t : Tab) (r : Record) : Move t (t.archiveDetail r) := by
  unfold archiveDetail
  split
  · exact .quiet rfl
  · exact move_openConfirm t _ _

theorem move_pressDetail (t : Tab) (k : Key) : Move t (t.pressDetail k) := by
  unfold pressDetail
  split
  · exact .quiet rfl
  · split
    · split
      · exact move_refreshScopes rfl
      · exact .quiet rfl
    · split
      · exact move_archiveDetail t _
      · exact .quiet rfl
    · split
      · exact move_openConfirm t _ _
      · exact .quiet rfl
    · exact move_issue 0 rfl rfl rfl
    · exact .quiet rfl
    · exact .quiet rfl
    · exact .quiet rfl

theorem admits_confirm (action : ConfirmAction) (kind : Kind) (target : String) :
    Slot.confirm.admits (action.request kind target) = true := by
  cases action <;> rfl

theorem move_pressConfirm (t : Tab) (action : ConfirmAction) (target : String) (back : View) (k : Key) :
    Move t (t.pressConfirm action target back k) := by
  have yes : Move t ({ t with view := back }.issue .confirm 0 (action.request t.kind target)) :=
    move_issue 0 rfl rfl (admits_confirm action t.kind target)
  have no : Move t ({ t with view := back }, []) := .quiet rfl
  unfold pressConfirm
  dsimp only
  split
  · exact yes
  · exact yes
  · exact no
  · exact no
  · exact no
  · exact .quiet rfl

theorem move_sendBulk (t : Tab) (field : BulkField) : Move t (t.sendBulk field) := by
  unfold sendBulk
  split
  · exact .quiet rfl
  · next edit _ =>
    cases hp : t.requests.isPending .bulk with
    | false =>
      rw [issue_of_free hp]
      have free : Move t ({ t with prompt := "", view := t.listView }.start .bulk 0
          (.bulkUpdate t.kind t.marks.toList edit)) := .request rfl rfl hp rfl
      exact free
    | true =>
      unfold issue
      rw [if_pos hp]
      exact .quiet rfl

theorem move_pressBulkPrompt (t : Tab) (field : BulkField) (k : Key) :
    Move t (t.pressBulkPrompt field k) := by
  unfold pressBulkPrompt
  split
  · exact .quiet rfl
  · exact move_sendBulk t field
  · exact .quiet rfl
  · exact .quiet rfl
  · split
    · exact .quiet rfl
    · exact .quiet rfl

/-- Saving creates a record or replaces the whole of one. -/
theorem admits_saveRequest {t : Tab} {f : Form} {r : Request} (h : t.saveRequest? f = some (.ok r)) :
    Slot.save.admits r = true := by
  have of_map {make : Payload → Request} {e : Except FormError Payload}
      (hm : ∀ p, Slot.save.admits (make p) = true) (h : some (e.map make) = some (.ok r)) :
      Slot.save.admits r = true := by
    cases e with
    | error e => simp [Except.map] at h
    | ok p =>
      simp only [Except.map, Option.some.injEq, Except.ok.injEq] at h
      rw [← h]
      exact hm p
  unfold saveRequest? at h
  split at h
  · exact of_map (fun _ => rfl) h
  · exact of_map (fun _ => rfl) h
  · split at h
    · exact of_map (fun _ => rfl) h
    · simp at h
  · simp at h

theorem move_saveForm (t : Tab) : Move t t.saveForm := by
  unfold saveForm
  split
  · exact .quiet rfl
  · split
    · exact .quiet rfl
    · exact .quiet rfl
    · next r hr =>
      obtain ⟨f, -, hf⟩ := Option.bind_eq_some_iff.mp hr
      exact move_issue t.formToken rfl rfl (admits_saveRequest hf)

theorem standing_cancelForm (t : Tab) : t.cancelForm.standing = t.standing := by
  obtain ⟨_, _, h⟩ := cancelForm_frame t
  rw [h]
  rfl

theorem standing_pressField (t : Tab) (f : Form) (k : Key) :
    (t.pressField f k).standing = t.standing := by
  obtain ⟨_, h⟩ := pressField_frame t f k
  rw [h]
  rfl

theorem move_pressForm (t : Tab) (k : Key) : Move t (t.pressForm k) := by
  unfold pressForm
  split
  · exact .quiet rfl
  · split
    · exact .quiet (standing_cancelForm t)
    · exact move_saveForm t
    · exact .quiet rfl
    · exact .quiet rfl
    · exact .quiet rfl
    · exact .quiet rfl
    · exact .quiet (standing_pressField t _ _)

theorem standing_pressEditor (t : Tab) (e : Editor) (rest : List Editor) (k : Key) :
    (t.pressEditor e rest k).standing = t.standing := by
  obtain ⟨_, _, h⟩ := pressEditor_frame t e rest k
  rw [h]
  rfl

theorem move_setPickerQuery {t u : Tab} (h : u.standing = t.standing) (query : String) :
    Move t (u.setPickerQuery query) := .candidates h

theorem move_pick (t : Tab) (step : RelateStep) : Move t (t.pick step) := by
  unfold pick
  split
  · exact .quiet rfl
  · split
    · apply move_setPickerQuery
      rfl
    · split
      · exact .quiet rfl
      · exact .quiet rfl

theorem move_leavePicker (t : Tab) (step : RelateStep) : Move t (t.leavePicker step) := by
  unfold leavePicker
  split
  · apply move_setPickerQuery
    rfl
  · exact .quiet rfl

theorem move_pressPicker (t : Tab) (step : RelateStep) (k : Key) : Move t (t.pressPicker step k) := by
  unfold pressPicker
  split
  · exact .quiet rfl
  · exact .quiet rfl
  · exact move_leavePicker t step
  · exact move_pick t step
  · split
    · exact .quiet rfl
    · exact move_setPickerQuery rfl _
  · exact move_setPickerQuery rfl ""
  · split
    · exact move_setPickerQuery rfl _
    · exact .quiet rfl

theorem move_pressView (t : Tab) (k : Key) : Move t (t.pressView k) := by
  unfold pressView
  split
  · exact move_pressList t k
  · exact move_pressList t k
  · exact move_pressDetail t k
  · exact move_pressForm t k
  · exact move_pressForm t k
  · exact move_pressConfirm t _ _ _ k
  · exact move_pressBulkPrompt t _ k
  · exact move_pressForm t k
  · exact move_pressPicker t _ k

theorem Move.of_standing {t u : Tab} {r : Tab × List Command} (h : Move u r)
    (hu : u.standing = t.standing) : Move t r := by
  cases h with
  | quiet h => exact .quiet (h.trans hu)
  | load h => exact .load (h.trans (congrArg Standing.traffic hu))
  | candidates h => exact .candidates (h.trans hu)
  | request h gated free admits =>
    have hr : u.requests = t.requests := congrArg (·.traffic.requests) hu
    exact .request (h.trans hu) gated (hr ▸ free) admits

theorem move_press (t : Tab) (k : Key) : Move t (t.press k) := by
  unfold press
  split
  · exact .quiet (standing_pressEditor t _ _ k)
  · exact (move_pressView _ k).of_standing rfl

/-! ## Inputs -/

theorem moves_activate (t : Tab) : Moves t t.activate := by
  unfold activate
  split
  · exact .refl t
  · dsimp only
    have hload : Move t { t with activated := true }.reload := .load rfl
    split
    · exact hload.moves.step (move_issue 0 rfl rfl rfl)
    · exact hload.moves

/-- Whatever the operator does is a few moves. -/
theorem moves_take (t : Tab) (i : TabInput) : Moves t (t.take i) := by
  cases i with
  | activate => exact moves_activate t
  | reload => exact (Move.load rfl).moves
  | viewport height => exact (show Move t (t.setViewport height, []) from .quiet rfl).moves
  | press k => exact (move_press t k).moves

/-! ## Deliveries -/

theorem standing_refreshDetail (t : Tab) (r : Record) : (t.refreshDetail r).standing = t.standing := by
  obtain ⟨_, -, -, h⟩ := refreshDetail_frame t r
  rw [h]
  rfl

theorem standing_applyCandidates (t : Tab) (rs : List Record) :
    (t.applyCandidates rs).standing = t.standing := by
  obtain ⟨_, _, _, h⟩ := applyCandidates_frame t rs
  rw [h]
  rfl

theorem saved_eq_reload (t : Tab) (token : Nat) (r : Record) :
    ∃ u : Tab, u.standing = t.standing ∧ t.saved token r = u.reload := by
  unfold saved
  dsimp only
  split
  · refine ⟨_, ?_, rfl⟩
    rfl
  · refine ⟨_, ?_, rfl⟩
    exact standing_refreshDetail _ r

/-- An answer to anything but the query for the rows makes at most one move, and keeps the rows. -/
theorem move_applyAnswer {slot : Slot} (h : slot ≠ .load) (t : Tab) (generation : Nat) (a : Answer) :
    Move t (t.applyAnswer slot generation a) := by
  unfold applyAnswer
  split
  · exact absurd rfl h
  · exact .quiet (standing_applyCandidates t _)
  · exact .quiet (standing_refreshDetail t _)
  · obtain ⟨u, hu, he⟩ := saved_eq_reload t generation _
    rw [he]
    exact .load (congrArg Standing.traffic hu)
  · exact .load (congrArg Standing.traffic (standing_refreshDetail _ _))
  · exact .load rfl
  · exact .load rfl
  · exact .quiet rfl
  · exact .quiet rfl
  · exact .quiet rfl

/-- The answer to the query for the rows issues nothing, and the tab goes on asking for the same. -/
theorem applyAnswer_load (t : Tab) (generation : Nat) (a : Answer) : ∃ u : Tab,
    t.applyAnswer .load generation a = (u, []) ∧ u.traffic = t.traffic ∧ u.rowsQuery = t.rowsQuery := by
  cases a with
  | records rs =>
    refine ⟨t.applyRows rs, rfl, ?_, ?_⟩
    · unfold applyRows
      split
      · rfl
      · rfl
    · unfold applyRows
      split
      · rfl
      · rfl
  | record | names | updated | reverted => exact ⟨t, rfl, rfl, rfl⟩

/-- The answer to a request that changes records has the rows queried again. -/
theorem applyAnswer_eq_reload {slot : Slot} {r : Request} {a : Answer} (admits : slot.admits r = true)
    (mutating : r.isMutating = true) (answers : r.answeredBy a = true) (t : Tab) (generation : Nat) :
    ∃ u : Tab, u.standing = t.standing ∧ t.applyAnswer slot generation a = u.reload := by
  cases r with
  | create p =>
    cases slot <;> simp only [Slot.admits, Bool.false_eq_true] at admits
    cases a <;> simp only [Request.answeredBy, Bool.false_eq_true] at answers
    exact saved_eq_reload t generation _
  | update kind id body =>
    cases a <;> simp only [Request.answeredBy, Bool.false_eq_true] at answers
    cases body with
    | full p =>
      cases slot <;> simp only [Slot.admits, Bool.false_eq_true] at admits
      exact saved_eq_reload t generation _
    | status st =>
      cases slot <;> simp only [Slot.admits, Bool.false_eq_true] at admits
      refine ⟨_, ?_, rfl⟩
      exact standing_refreshDetail _ _
  | bulkUpdate kind ids edit =>
    cases slot <;> simp only [Slot.admits, Bool.false_eq_true] at admits
    cases a <;> simp only [Request.answeredBy, Bool.false_eq_true] at answers
    refine ⟨_, ?_, rfl⟩
    rfl
  | revert id =>
    cases slot <;> simp only [Slot.admits, Bool.false_eq_true] at admits
    cases a <;> simp only [Request.answeredBy, Bool.false_eq_true] at answers
    refine ⟨_, ?_, rfl⟩
    rfl
  | query | get | listScopes | listActors => exact absurd mutating Bool.false_ne_true

theorem isStale_load (t : Tab) (generation : Nat) :
    t.isStale .load generation = (t.generation != generation) := rfl

theorem isStale_of_isGated {slot : Slot} (h : slot.isGated = true) (t : Tab) (generation : Nat) :
    t.isStale slot generation = false := by
  cases slot <;> first | rfl | exact absurd h Bool.false_ne_true

theorem deliver_of_isStale {t : Tab} {d : Delivery} (h : t.isStale d.slot d.generation = true) :
    t.deliver d = (t, []) := by
  unfold deliver
  rw [if_pos h]

theorem deliver_error {t : Tab} {d : Delivery} {message : String}
    (h : t.isStale d.slot d.generation = false) (ho : d.outcome = .error message) :
    t.deliver d = (t.failAll d.slot message, []) := by
  unfold deliver
  rw [h, ho]
  rfl

theorem deliver_ok {t : Tab} {d : Delivery} {a : Answer}
    (h : t.isStale d.slot d.generation = false) (ho : d.outcome = .ok a) :
    t.deliver d =
      { t with requests := t.requests.set d.slot .idle }.applyAnswer d.slot d.generation a := by
  unfold deliver
  rw [h, ho]
  rfl

end Tab

end RecordDesk
