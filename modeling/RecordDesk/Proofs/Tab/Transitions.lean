import RecordDesk.Proofs.Tab.Consistency

/-!
Which views follow each other, and which commands go out on the way. A key turns the view in one of a
few ways (`Turn`) and sends at most one command, of one of a few forms (`Sends`); a delivery leaves the
view alone unless it answers the save of the open form (`Heard`). There is one theorem for each handler,
up to `deed_press` and `heard_deliver`; the theorems on permissions and on forms split on their cases
and do not look into the handlers again.

The first that does so is `mutating_by_key`: what changes records goes out on its own key only.
-/

namespace RecordDesk

/-- The bulk edits of a field are offered. -/
def Capabilities.bulk (c : Capabilities) : BulkField → Bool
  | .tags => c.bulkTags
  | .scopes => c.bulkScopes

/-- The action is offered in detail. -/
def Capabilities.confirms (c : Capabilities) : ConfirmAction → Bool
  | .archive => c.archive
  | .revert => c.revert

/-- The list, under both its names. -/
def View.isList : View → Bool
  | .list => true
  | .search => true
  | _ => false

/-- The views that only show records. -/
def View.isBrowsing : View → Bool
  | .detail => true
  | v => v.isList

/-- The keys that write in a view. -/
def View.writeKeys : View → List Key
  | .add => [.ctrl 's']
  | .edit => [.ctrl 's']
  | .relate .details => [.ctrl 's']
  | .confirm _ _ _ => [.char 'y', .char 'Y']
  | .bulkPrompt _ => [.enter]
  | _ => []

/-- The part of a tab that decides what it may send. -/
structure Scene where
  kind : Kind
  activated : Bool
  view : View
  form : Option Form
  formToken : Nat
  detail : Option Record

namespace Scene

/-- The picker of relationships is open, or may be opened. -/
def Picks (x : Scene) : Prop :=
  (x.kind.capabilities.create = true ∧ x.kind.capabilities.relate = true) ∨ ∃ step, x.view = .relate step

/-- What saving the open form can ask for, view by view. -/
inductive Saves (x : Scene) : Request → Prop where
  | add {f : Form} {p : Payload} (view : x.view = .add) (form : x.form = some f)
      (build : x.kind.buildPayload f none = .ok p) : Saves x (.create p)
  | edit {f : Form} {r : Record} {p : Payload} (view : x.view = .edit) (form : x.form = some f)
      (detail : x.detail = some r) (build : x.kind.buildPayload f (some r) = .ok p) :
      Saves x (.update x.kind r.id (.full p))
  | relate {f : Form} {source target : Record} {p : Payload} (view : x.view = .relate .details)
      (form : x.form = some f) (build : relatePayload source target f = .ok p) : Saves x (.create p)

/-- The ways in which a key can turn the view. -/
inductive Turn (k : Key) (x : Scene) : Scene → Prop where
  | stay : Turn k x x
  | fill {f : Form} (form : x.form.isSome = true) : Turn k x { x with form := some f }
  | browse {v : View} {f : Option Form} {d : Option Record} (browsing : v.isBrowsing = true)
      (form : f = x.form ∨ f = none) : Turn k x { x with view := v, form := f, detail := d }
  | prompt {field : BulkField} (view : x.view.isList = true)
      (able : x.kind.capabilities.bulk field = true) : Turn k x { x with view := .bulkPrompt field }
  | ask {action : ConfirmAction} {r : Record} (view : x.view = .detail) (detail : x.detail = some r)
      (able : x.kind.capabilities.confirms action = true) :
      Turn k x { x with view := .confirm action r.id x.view }
  | answer {action : ConfirmAction} {target : String} {back : View}
      (view : x.view = .confirm action target back) : Turn k x { x with view := back }
  | add {f : Form} (view : x.view.isList = true) (able : x.kind.capabilities.create = true) :
      Turn k x { x with view := .add, form := some f, formToken := x.formToken + 1 }
  | edit {r : Record} (key : k = .char 'e') (view : x.view = .detail) (detail : x.detail = some r)
      (able : x.kind.capabilities.edit = true) :
      Turn k x { x with
        view := .edit, form := some (x.kind.seedForm r), formToken := x.formToken + 1 }
  | relate (view : x.view.isList = true) (able : x.kind.capabilities.create = true)
      (relates : x.kind.capabilities.relate = true) : Turn k x { x with view := .relate .source }
  | source (view : x.view = .relate .target) : Turn k x { x with view := .relate .source }
  | target (view : x.view = .relate .source) : Turn k x { x with view := .relate .target }
  | details {f : Form} (view : x.view = .relate .target) :
      Turn k x { x with view := .relate .details, form := some f, formToken := x.formToken + 1 }
  | retarget (view : x.view = .relate .details) : Turn k x { x with view := .relate .target, form := none }

/-- What a key can send. The last three change records, and each has a key of its own. -/
inductive Sends (k : Key) (x : Scene) : List Command → Prop where
  | nothing : Sends k x []
  | rows {generation : Nat} {filter : QueryFilter} :
      Sends k x [⟨x.kind, .load, generation, .query x.kind filter⟩]
  | candidates {generation : Nat} {filter : QueryFilter} (picks : x.Picks) :
      Sends k x [⟨x.kind, .candidates, generation, .query .entities filter⟩]
  | record {id : String} : Sends k x [⟨x.kind, .detail, 0, .get x.kind id⟩]
  | scopes (able : x.kind.capabilities.scopes = true) : Sends k x [⟨x.kind, .scopes, 0, .listScopes⟩]
  | save {r : Request} (key : k = .ctrl 's') (saves : x.Saves r) :
      Sends k x [⟨x.kind, .save, x.formToken, r⟩]
  | confirm {action : ConfirmAction} {target : String} {back : View} (key : k = .char 'y' ∨ k = .char 'Y')
      (view : x.view = .confirm action target back) :
      Sends k x [⟨x.kind, .confirm, 0, action.request x.kind target⟩]
  | bulk {field : BulkField} {prompt : String} {ids : List String} {edit : BulkEdit} (key : k = .enter)
      (view : x.view = .bulkPrompt field) (read : BulkEdit.read field prompt = .ok edit) :
      Sends k x [⟨x.kind, .bulk, 0, .bulkUpdate x.kind ids edit⟩]

end Scene

namespace Tab

open Scene

def scene (t : Tab) : Scene := ⟨t.kind, t.activated, t.view, t.form, t.formToken, t.detail⟩

/-- What a key does to a tab that stands as `x`. -/
structure Deed (k : Key) (x : Scene) (r : Tab × List Command) : Prop where
  turn : x.Turn k r.1.scene
  sends : x.Sends k r.2

/-! ## Keys, view by view -/

theorem scene_issue (t : Tab) (slot : Slot) (generation : Nat) (r : Request) :
    (t.issue slot generation r).1.scene = t.scene := by
  obtain ⟨_, _, h⟩ := issue_frame t slot generation r
  rw [h]
  rfl

/-- A request goes out as it is, or not at all. -/
theorem deed_issue {k : Key} {x : Scene} {u : Tab} {slot : Slot} {generation : Nat} {r : Request}
    (turn : x.Turn k u.scene) (sends : x.Sends k [⟨u.kind, slot, generation, r⟩]) :
    Deed k x (u.issue slot generation r) := by
  refine ⟨(scene_issue u slot generation r).symm ▸ turn, ?_⟩
  unfold issue
  split
  · exact .nothing
  · exact sends

theorem isBrowsing_listView (t : Tab) : t.listView.isBrowsing = true := by
  rcases listView_eq t with h | h
  · rw [h]; rfl
  · rw [h]; rfl

variable (t : Tab) (k : Key)

theorem deed_setSearch (search : String) : Deed k t.scene (t.setSearch search) :=
  ⟨.browse (isBrowsing_listView { t with search }) (.inl rfl), .rows⟩

theorem deed_clearSearch : Deed k t.scene t.clearSearch := by
  unfold clearSearch
  split
  · exact ⟨.stay, .nothing⟩
  · exact deed_setSearch t k ""

theorem deed_openDetail : Deed k t.scene t.openDetail := by
  unfold openDetail
  split
  · exact ⟨.stay, .nothing⟩
  · exact deed_issue (.browse rfl (.inl rfl)) .record

theorem deed_refreshScopes {u : Tab} (turn : t.scene.Turn k u.scene) (hk : u.kind = t.kind) :
    Deed k t.scene u.refreshScopes := by
  unfold refreshScopes
  split
  · next able =>
    have able : t.kind.capabilities.scopes = true := hk ▸ able
    refine deed_issue turn ?_
    rw [hk]
    exact .scopes able
  · exact ⟨turn, .nothing⟩

theorem deed_openAdd (hv : t.view.isList = true) : Deed k t.scene t.openAdd := by
  unfold openAdd
  split
  · exact ⟨.stay, .nothing⟩
  · next hcreate =>
    have hcreate : t.capabilities.create = true := by simpa using hcreate
    split
    · next hrelate => exact ⟨.relate hv hcreate hrelate, .candidates (.inl ⟨hcreate, hrelate⟩)⟩
    · exact deed_refreshScopes t k (.add hv hcreate) rfl

theorem deed_pressToggle (hv : t.view.isList = true) (choice : ToggleChoice) :
    Deed k t.scene (t.pressToggle choice k) := by
  unfold pressToggle
  split
  case h_5 =>
    dsimp only
    split
    · exact deed_openAdd { t with focus := .rows } _ hv
    · exact ⟨.stay, .nothing⟩
  all_goals exact ⟨.stay, .nothing⟩

theorem deed_openBulkPrompt (hv : t.view.isList = true) (field : BulkField) :
    Deed k t.scene (t.openBulkPrompt field) := by
  unfold openBulkPrompt
  extract_lets supported
  split
  · exact ⟨.stay, .nothing⟩
  · next hsupported =>
    have able : t.kind.capabilities.bulk field = true := by
      have heq : t.kind.capabilities.bulk field = supported := by cases field <;> rfl
      rw [heq]
      simpa using hsupported
    split
    · exact ⟨.stay, .nothing⟩
    · exact ⟨.prompt hv able, .nothing⟩

theorem deed_typeSearch (typed : Key) : Deed k t.scene (t.typeSearch typed) := by
  unfold typeSearch
  split
  · exact deed_setSearch t k _
  · exact ⟨.stay, .nothing⟩

theorem deed_pressRows (hv : t.view.isList = true) : Deed k t.scene (t.pressRows k) := by
  unfold pressRows
  split
  · split
    · exact ⟨.stay, .nothing⟩
    · exact ⟨.stay, .nothing⟩
  · exact ⟨.stay, .nothing⟩
  · exact deed_openDetail t _
  · split
    · exact deed_setSearch t _ _
    · exact ⟨.stay, .nothing⟩
  · split
    · exact ⟨.stay, .nothing⟩
    · exact deed_setSearch t _ _
  · exact deed_clearSearch t _
  · exact ⟨.stay, .rows⟩
  · exact ⟨.stay, .rows⟩
  · exact deed_openBulkPrompt t _ hv _
  · exact deed_openBulkPrompt t _ hv _
  · split
    · exact ⟨.stay, .nothing⟩
    · exact deed_clearSearch t _
  · split
    · split
      · exact ⟨.stay, .nothing⟩
      · exact ⟨.stay, .nothing⟩
    · exact deed_typeSearch t _ _
  · exact deed_typeSearch t _ _

theorem deed_pressList (hv : t.view.isList = true) : Deed k t.scene (t.pressList k) := by
  unfold pressList
  split
  · exact deed_pressToggle t k hv _
  · exact deed_pressRows t k hv

variable {t} in
theorem deed_openConfirm (hv : t.view = .detail) {r : Record} (hr : t.detail = some r)
    {action : ConfirmAction} (able : t.kind.capabilities.confirms action = true) :
    Deed k t.scene (t.openConfirm action r.id) := by
  unfold openConfirm
  split
  · exact ⟨.stay, .nothing⟩
  · exact ⟨.ask hv hr able, .nothing⟩

theorem deed_pressDetail (hv : t.view = .detail) : Deed k t.scene (t.pressDetail k) := by
  have closed : Deed k t.scene t.closeDetail := ⟨.browse (isBrowsing_listView t) (.inl rfl), .nothing⟩
  unfold pressDetail
  split
  · exact ⟨.browse (isBrowsing_listView t) (.inl rfl), .nothing⟩
  · next r hr =>
    split
    · split
      · next able => exact deed_refreshScopes t _ (.edit rfl hv hr able) rfl
      · exact ⟨.stay, .nothing⟩
    · split
      · next able =>
        unfold archiveDetail
        split
        · exact ⟨.stay, .nothing⟩
        · exact deed_openConfirm _ hv hr able
      · exact ⟨.stay, .nothing⟩
    · split
      · next able => exact deed_openConfirm _ hv hr able
      · exact ⟨.stay, .nothing⟩
    · exact deed_issue .stay .record
    · exact closed
    · exact closed
    · exact ⟨.stay, .nothing⟩

theorem deed_pressConfirm {action : ConfirmAction} {target : String} {back : View}
    (hv : t.view = .confirm action target back) :
    Deed k t.scene (t.pressConfirm action target back k) := by
  have yes (hk : k = .char 'y' ∨ k = .char 'Y') :
      Deed k t.scene ({ t with view := back }.issue .confirm 0 (action.request t.kind target)) :=
    deed_issue (.answer hv) (.confirm hk hv)
  have no : Deed k t.scene ({ t with view := back }, []) := ⟨.answer hv, .nothing⟩
  unfold pressConfirm
  dsimp only
  split
  · exact yes (.inl rfl)
  · exact yes (.inr rfl)
  · exact no
  · exact no
  · exact no
  · exact ⟨.stay, .nothing⟩

theorem deed_sendBulk {field : BulkField} (hk : k = .enter) (hv : t.view = .bulkPrompt field) :
    Deed k t.scene (t.sendBulk field) := by
  unfold sendBulk
  split
  · exact ⟨.stay, .nothing⟩
  · next edit hread =>
    have hissue : Deed k t.scene (t.issue .bulk 0 (.bulkUpdate t.kind t.marks.toList edit)) :=
      deed_issue .stay (.bulk hk hv hread)
    have hscene := scene_issue t .bulk 0 (.bulkUpdate t.kind t.marks.toList edit)
    generalize t.issue .bulk 0 (.bulkUpdate t.kind t.marks.toList edit) = i at hissue hscene
    dsimp only
    split
    · exact ⟨hissue.turn, .nothing⟩
    · refine ⟨?_, hissue.sends⟩
      rw [← hscene]
      exact .browse (isBrowsing_listView i.1) (.inl rfl)

theorem deed_pressBulkPrompt {field : BulkField} (hv : t.view = .bulkPrompt field) :
    Deed k t.scene (t.pressBulkPrompt field k) := by
  unfold pressBulkPrompt
  split
  · exact ⟨.browse (isBrowsing_listView t) (.inl rfl), .nothing⟩
  · exact deed_sendBulk t _ rfl hv
  · exact ⟨.stay, .nothing⟩
  · exact ⟨.stay, .nothing⟩
  · split
    · exact ⟨.stay, .nothing⟩
    · exact ⟨.stay, .nothing⟩

theorem saves_of_saveRequest {t : Tab} {f : Form} {r : Request} (hf : t.form = some f)
    (h : t.saveRequest? f = some (.ok r)) : t.scene.Saves r := by
  have of_map {make : Payload → Request} {e : Except FormError Payload}
      (h : some (e.map make) = some (.ok r)) : ∃ p, e = .ok p ∧ make p = r := by
    cases e with
    | error e => simp [Except.map] at h
    | ok p => exact ⟨p, rfl, by simpa [Except.map] using h⟩
  unfold saveRequest? at h
  split at h
  · next hv =>
    obtain ⟨p, hp, rfl⟩ := of_map h
    exact .add hv hf hp
  · next record hv hd =>
    obtain ⟨p, hp, rfl⟩ := of_map h
    exact .edit hv hf hd hp
  · next hv =>
    split at h
    · obtain ⟨p, hp, rfl⟩ := of_map h
      exact .relate hv hf hp
    · simp at h
  · simp at h

theorem deed_saveForm (hk : k = .ctrl 's') : Deed k t.scene t.saveForm := by
  unfold saveForm
  split
  · exact ⟨.stay, .nothing⟩
  · split
    · exact ⟨.stay, .nothing⟩
    · exact ⟨.stay, .nothing⟩
    · next r hr =>
      obtain ⟨f, hf, hbuilt⟩ := Option.bind_eq_some_iff.mp hr
      exact deed_issue .stay (.save hk (saves_of_saveRequest hf hbuilt))

theorem turn_cancelForm : t.scene.Turn k t.cancelForm.scene := by
  unfold cancelForm
  dsimp only
  split
  · exact .browse rfl (.inr rfl)
  · next hv => exact .retarget hv
  · exact .browse (isBrowsing_listView _) (.inr rfl)

theorem deed_pressForm : Deed k t.scene (t.pressForm k) := by
  unfold pressForm
  split
  · exact ⟨.browse (isBrowsing_listView t) (.inl rfl), .nothing⟩
  · next f hf =>
    have hsome : t.scene.form.isSome = true := congrArg Option.isSome hf
    split
    · exact ⟨turn_cancelForm t _, .nothing⟩
    · exact deed_saveForm t _ rfl
    · exact ⟨.fill hsome, .nothing⟩
    · exact ⟨.fill hsome, .nothing⟩
    · exact ⟨.fill hsome, .nothing⟩
    · exact ⟨.fill hsome, .nothing⟩
    · refine ⟨?_, .nothing⟩
      unfold pressField
      dsimp only
      split
      · exact .fill hsome
      · exact .fill hsome

theorem turn_pressEditor (e : Editor) (rest : List Editor) :
    t.scene.Turn k (t.pressEditor e rest k).scene := by
  unfold pressEditor
  split
  · cases hf : t.form with
    | none =>
      have hsame : ({ t with editors := rest, form := none } : Tab).scene = t.scene := by
        unfold scene
        rw [hf]
      rw [Option.map_none, hsame]
      exact .stay
    | some f => exact .fill (congrArg Option.isSome hf)
  · exact .stay

variable {t} in
theorem deed_setPickerQuery {u : Tab} (turn : t.scene.Turn k u.scene) (hk : u.kind = t.kind)
    (picks : t.scene.Picks) (query : String) : Deed k t.scene (u.setPickerQuery query) := by
  refine ⟨turn, ?_⟩
  show t.scene.Sends k [⟨u.kind, .candidates, _, .query .entities _⟩]
  rw [hk]
  exact .candidates picks

theorem deed_pick {step : RelateStep} (hv : t.view = .relate step) (hpicks : step ≠ .details) :
    Deed k t.scene (t.pick step) := by
  unfold pick
  split
  · exact ⟨.stay, .nothing⟩
  · split
    · next hstep =>
      rw [hstep] at hv
      refine deed_setPickerQuery k ?_ (by rfl) (.inr ⟨.source, hv⟩) ""
      exact .target hv
    · next hstep =>
      obtain rfl : step = .target := by cases step <;> simp_all
      split
      · exact ⟨.stay, .nothing⟩
      · exact ⟨.details hv, .nothing⟩

theorem deed_leavePicker {step : RelateStep} (hv : t.view = .relate step) :
    Deed k t.scene (t.leavePicker step) := by
  unfold leavePicker
  split
  · next hstep =>
    rw [hstep] at hv
    refine deed_setPickerQuery k ?_ (by rfl) (.inr ⟨.target, hv⟩) ""
    exact .source hv
  · exact ⟨.browse (isBrowsing_listView t) (.inl rfl), .nothing⟩

theorem deed_pressPicker {step : RelateStep} (hv : t.view = .relate step) (hpicks : step ≠ .details) :
    Deed k t.scene (t.pressPicker step k) := by
  have picks : t.scene.Picks := .inr ⟨step, hv⟩
  unfold pressPicker
  split
  · exact ⟨.stay, .nothing⟩
  · exact ⟨.stay, .nothing⟩
  · exact deed_leavePicker t _ hv
  · exact deed_pick t _ hv hpicks
  · split
    · exact ⟨.stay, .nothing⟩
    · exact deed_setPickerQuery _ .stay rfl picks _
  · exact deed_setPickerQuery _ .stay rfl picks ""
  · split
    · exact deed_setPickerQuery _ .stay rfl picks _
    · exact ⟨.stay, .nothing⟩

theorem deed_pressView : Deed k t.scene (t.pressView k) := by
  unfold pressView
  split
  · next hv => exact deed_pressList t k (congrArg View.isList hv)
  · next hv => exact deed_pressList t k (congrArg View.isList hv)
  · next hv => exact deed_pressDetail t k hv
  · exact deed_pressForm t k
  · exact deed_pressForm t k
  · next hv => exact deed_pressConfirm t k hv
  · next hv => exact deed_pressBulkPrompt t k hv
  · exact deed_pressForm t k
  · next step hpicks hv => exact deed_pressPicker t k hv hpicks

/-- What a key can do; and with an editor open it sends nothing. -/
theorem deed_press : Deed k t.scene (t.press k) ∧ (t.editors ≠ [] → (t.press k).2 = []) := by
  unfold press
  split
  · exact ⟨⟨turn_pressEditor t k _ _, .nothing⟩, fun _ => rfl⟩
  · next he => exact ⟨deed_pressView { t with error := none, notice := none } k, fun hne => absurd he hne⟩

/-! ## The other inputs -/

variable {t}

/-- The first activation queries the rows, and in the history also asks who acts in it. -/
theorem activate_of_new (h : t.activated = false) :
    t.activate.1.scene = { t.scene with activated := true } ∧
      (t.activate.2 = [t.activate.1.rowsQuery] ∨
        t.kind = .history ∧
          t.activate.2 = [t.activate.1.rowsQuery, ⟨t.kind, .actors, 0, .listActors⟩]) := by
  unfold activate
  rw [h, if_neg Bool.false_ne_true]
  dsimp only
  split
  · next hk =>
    refine ⟨scene_issue _ _ _ _, ?_⟩
    unfold issue
    split
    · exact .inl rfl
    · exact .inr ⟨hk, rfl⟩
  · exact ⟨rfl, .inl rfl⟩

theorem activate_of_activated (h : t.activated = true) : t.activate = (t, []) := by
  unfold activate
  rw [h, if_pos rfl]

/-- All that an input other than a key changes of the scene is that the tab has been activated. -/
theorem take_cases (t : Tab) (i : TabInput) :
    (∃ k, i = .press k) ∨
      (t.take i).1.scene = { t.scene with activated := (t.take i).1.activated } := by
  cases i with
  | press k => exact .inl ⟨k, rfl⟩
  | reload => exact .inr rfl
  | viewport height => exact .inr rfl
  | activate =>
    refine .inr ?_
    change t.activate.1.scene = { t.scene with activated := t.activate.1.activated }
    cases ha : t.activated with
    | true =>
      rw [activate_of_activated ha]
      rfl
    | false =>
      have hscene := (activate_of_new ha).1
      have hactivated : t.activate.1.activated = true := congrArg Scene.activated hscene
      rw [hscene, hactivated]

/-! ## Deliveries -/

/-- The part of a tab that deliveries leave alone, unless they close a form. Of the record in detail,
a delivery may bring a newer state, but never another one. -/
structure Stage where
  kind : Kind
  activated : Bool
  formToken : Nat
  subject : Option String
  face : Face

def stage (t : Tab) : Stage := ⟨t.kind, t.activated, t.formToken, t.detail.map Record.id, t.face⟩

/-- The form has been saved, and the record that was made of it is shown. -/
def closeForm (t : Tab) (r : Record) : Tab :=
  { t with form := none, editors := [], picker := t.picker.restart, detail := some r, view := .detail }

/-- What a delivery can do. -/
inductive Heard (t : Tab) (d : Delivery) : Tab × List Command → Prop where
  | quiet {u : Tab} (h : u.stage = t.stage) : Heard t d (u, [])
  | reload {u : Tab} (h : u.stage = t.stage) : Heard t d u.reload
  | saved {u : Tab} {r : Record} (h : u.stage = t.stage) (slot : d.slot = .save)
      (outcome : d.outcome = .ok (.record r)) (owns : t.ownsForm d.generation = true) :
      Heard t d (u.closeForm r).reload

theorem stage_refreshDetail (t : Tab) (r : Record) : (t.refreshDetail r).stage = t.stage := by
  have hface := face_refreshDetail t r
  obtain ⟨_, -, hid, h⟩ := refreshDetail_frame t r
  rw [h] at hface ⊢
  unfold stage
  rw [hface, hid]

theorem stage_applyRows (t : Tab) (rs : List Record) : (t.applyRows rs).stage = t.stage := by
  rw [applyRows_eq]
  rfl

theorem stage_applyCandidates (t : Tab) (rs : List Record) : (t.applyCandidates rs).stage = t.stage := by
  obtain ⟨_, _, _, h⟩ := applyCandidates_frame t rs
  rw [h]
  rfl

/-- The answer to the save of the open form closes it. -/
theorem saved_of_ownsForm {token : Nat} (h : t.ownsForm token = true) (r : Record) :
    ∃ u : Tab, u.stage = t.stage ∧ t.saved token r = (u.closeForm r).reload := by
  unfold saved
  rw [h]
  exact ⟨{ t with notice := some s!"saved {r.kind.noun} {r.title}" }, rfl, rfl⟩

theorem saved_of_not_ownsForm {token : Nat} (h : t.ownsForm token = false) (r : Record) :
    ∃ u : Tab, u.stage = t.stage ∧ t.saved token r = u.reload := by
  unfold saved
  rw [h]
  exact ⟨_, stage_refreshDetail { t with notice := some s!"saved {r.kind.noun} {r.title}" } r, rfl⟩

theorem heard_deliver (t : Tab) (d : Delivery) : t.Heard d (t.deliver d) := by
  unfold deliver
  split
  · exact .quiet rfl
  · split
    · exact .quiet rfl
    · next a ho =>
      unfold applyAnswer
      split
      · exact .quiet (stage_applyRows _ _)
      · exact .quiet (stage_applyCandidates _ _)
      · exact .quiet (stage_refreshDetail _ _)
      · next r hslot =>
        cases howns : t.ownsForm d.generation with
        | true =>
          obtain ⟨u, hu, he⟩ := saved_of_ownsForm
            (t := { t with requests := t.requests.set d.slot .idle }) howns r
          rw [he]
          exact .saved hu hslot ho howns
        | false =>
          obtain ⟨u, hu, he⟩ := saved_of_not_ownsForm
            (t := { t with requests := t.requests.set d.slot .idle }) howns r
          rw [he]
          exact .reload hu
      · exact .reload (stage_refreshDetail _ _)
      · exact .reload rfl
      · exact .reload rfl
      · exact .quiet rfl
      · exact .quiet rfl
      · exact .quiet rfl

theorem deliver_of_ownsForm {d : Delivery} {r : Record} (slot : d.slot = .save)
    (outcome : d.outcome = .ok (.record r)) (owns : t.ownsForm d.generation = true) :
    ∃ u : Tab, u.stage = t.stage ∧ t.deliver d = (u.closeForm r).reload := by
  have hfresh : t.isStale d.slot d.generation = false := by
    rw [slot]
    rfl
  rw [deliver_ok hfresh outcome, slot]
  exact saved_of_ownsForm (t := { t with requests := t.requests.set .save .idle }) owns r

/-! ## Every event -/

theorem kind_of_turn {k : Key} {x y : Scene} (turn : x.Turn k y) : y.kind = x.kind := by
  cases turn <;> rfl

theorem kind_handle (t : Tab) (e : TabEvent) : (t.handle e).1.kind = t.kind := by
  cases e with
  | deliver d =>
    have hd := heard_deliver t d
    change t.Heard d (t.handle (.deliver d)) at hd
    generalize t.handle (.deliver d) = r at hd
    cases hd with
    | quiet h => exact congrArg Stage.kind h
    | reload h => exact congrArg Stage.kind h
    | saved h => exact congrArg Stage.kind h
  | input i =>
    rcases take_cases t i with ⟨k, rfl⟩ | hscene
    · exact kind_of_turn (deed_press t k).1.turn
    · exact congrArg Scene.kind hscene

theorem kind_after (kind : Kind) (es : List TabEvent) : (after kind es).kind = kind :=
  after_induction (motive := fun t => t.kind = kind) rfl (fun t e h => (kind_handle t e).trans h) es

/-! ## The keys that write -/

theorem commands_of_heard {d : Delivery} {r : Tab × List Command} (h : t.Heard d r) :
    r.2 = [] ∨ r.2 = [r.1.rowsQuery] := by
  cases h with
  | quiet h => exact .inl rfl
  | reload h => exact .inr rfl
  | saved h slot outcome owns => exact .inr rfl

/-- What is sent without a key is a query for the rows, or the question who acts in the history. -/
theorem command_cases {e : TabEvent} {c : Command} (hc : c ∈ (t.handle e).2) :
    c = (t.handle e).1.rowsQuery ∨ c = ⟨t.kind, .actors, 0, .listActors⟩ ∨ ∃ k, e = .input (.press k) := by
  cases e with
  | deliver d =>
    change c ∈ (t.deliver d).2 at hc
    rcases commands_of_heard (heard_deliver t d) with h | h
    · rw [h] at hc
      cases hc
    · rw [h] at hc
      exact .inl (List.mem_singleton.mp hc)
  | input i =>
    cases i with
    | activate =>
      change c ∈ t.activate.2 at hc
      cases ha : t.activated with
      | true =>
        rw [activate_of_activated ha] at hc
        cases hc
      | false =>
        rcases (activate_of_new ha).2 with h | ⟨-, h⟩
        · rw [h] at hc
          exact .inl (List.mem_singleton.mp hc)
        · rw [h] at hc
          rcases List.mem_cons.mp hc with hc | hc
          · exact .inl hc
          · exact .inr (.inl (List.mem_singleton.mp hc))
    | reload => exact .inl (List.mem_singleton.mp hc)
    | viewport height => cases hc
    | press k => exact .inr (.inr ⟨k, rfl⟩)

/-- A command that changes records is the only one, and is sent by the key of its view. -/
theorem eq_of_sends {x : Scene} {cs : List Command} (h : x.Sends k cs) {c : Command} (hc : c ∈ cs)
    (hm : c.request.isMutating = true) : cs = [c] ∧ k ∈ x.view.writeKeys := by
  cases h with
  | nothing => cases hc
  | save key saves =>
    subst key
    obtain rfl := List.mem_singleton.mp hc
    refine ⟨rfl, ?_⟩
    cases saves with
    | add view => rw [view]; exact List.mem_singleton_self _
    | edit view => rw [view]; exact List.mem_singleton_self _
    | relate view => rw [view]; exact List.mem_singleton_self _
  | confirm key view =>
    obtain rfl := List.mem_singleton.mp hc
    rw [view]
    exact ⟨rfl, by simpa [View.writeKeys] using key⟩
  | bulk key view read =>
    obtain rfl := List.mem_singleton.mp hc
    rw [view, key]
    exact ⟨rfl, List.mem_singleton_self _⟩
  | rows | candidates | record | scopes =>
    obtain rfl := List.mem_singleton.mp hc
    exact absurd hm Bool.false_ne_true

/-- In any state: a delivery sends nothing, or one query for the rows; and a command that changes
records is sent by a key that writes in the view, with no editor open, and by itself. -/
theorem mutating_by_key (t : Tab) :
    (∀ d, (t.deliver d).2 = [] ∨ (t.deliver d).2 = [(t.deliver d).1.rowsQuery]) ∧
      ∀ e c, c ∈ (t.handle e).2 → c.request.isMutating = true →
        (t.handle e).2 = [c] ∧ t.editors = [] ∧ ∃ k ∈ t.view.writeKeys, e = .input (.press k) := by
  refine ⟨fun d => commands_of_heard (heard_deliver t d), fun e c hc hm => ?_⟩
  rcases command_cases hc with h | h | ⟨k, rfl⟩
  · rw [h] at hm
    exact absurd hm Bool.false_ne_true
  · rw [h] at hm
    exact absurd hm Bool.false_ne_true
  · change c ∈ (t.press k).2 at hc
    obtain ⟨hdeed, hmodal⟩ := deed_press t k
    obtain ⟨hone, hkey⟩ := eq_of_sends k hdeed.sends hc hm
    refine ⟨hone, ?_, k, hkey, rfl⟩
    cases he : t.editors with
    | nil => rfl
    | cons e rest =>
      have hnone : (t.press k).2 = [] := hmodal (he ▸ List.cons_ne_nil e rest)
      rw [hnone] at hone
      cases hone

/-- The save of a job that has been typed in. -/
theorem create_by_key :
    let t := after .jobs [.input .activate, .input (.press .up), .input (.press .enter),
      .input (.press (.char 'a'))]
    ∃ p, (t.press (.ctrl 's')).2 = [⟨.jobs, .save, 1, .create p⟩] ∧ t.editors = [] ∧
      .ctrl 's' ∈ t.view.writeKeys := by
  intro t
  have hsent : ∃ p, (t.press (.ctrl 's')).2 = [⟨.jobs, .save, 1, .create p⟩] := ⟨_, by rfl⟩
  obtain ⟨p, hsent⟩ := hsent
  have hmem : ⟨.jobs, .save, 1, .create p⟩ ∈ (t.handle (.input (.press (.ctrl 's')))).2 :=
    hsent ▸ List.mem_singleton_self _
  obtain ⟨-, heditors, k, hkey, hk⟩ := (mutating_by_key t).2 _ _ hmem rfl
  cases hk
  exact ⟨p, hsent, heditors, hkey⟩

end Tab

end RecordDesk
