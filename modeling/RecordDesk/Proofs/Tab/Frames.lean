import RecordDesk.Desk

/-!
What the handlers of a tab can change. Each leaves the tab as it was but for a few fields, and says here, once, for
which. Whatever other modules keep track of, the view, the form, the rows or the slots, they read off these equations.
-/

namespace RecordDesk.Tab

/-! ## Requests -/

theorem issue_frame (t : Tab) (slot : Slot) (generation : Nat) (r : Request) :
    ∃ requests error, (t.issue slot generation r).1 = { t with requests, error } := by
  unfold issue
  split
  · dsimp only
    split
    · exact ⟨t.requests, _, rfl⟩
    · exact ⟨t.requests, t.error, rfl⟩
  · exact ⟨_, t.error, rfl⟩

theorem refreshScopes_frame (t : Tab) : ∃ requests error, t.refreshScopes.1 = { t with requests, error } := by
  unfold refreshScopes
  split
  · exact issue_frame t _ _ _
  · exact ⟨t.requests, t.error, rfl⟩

theorem saveForm_frame (t : Tab) : ∃ requests error, t.saveForm.1 = { t with requests, error } := by
  unfold saveForm
  split
  · exact ⟨t.requests, _, rfl⟩
  · split
    · exact ⟨t.requests, t.error, rfl⟩
    · exact ⟨t.requests, _, rfl⟩
    · exact issue_frame t _ _ _

theorem activate_frame (t : Tab) : ∃ activated generation requests error,
    t.activate.1 = { t with activated, generation, requests, error } := by
  unfold activate
  split
  · exact ⟨t.activated, t.generation, t.requests, t.error, rfl⟩
  · dsimp only
    split
    · obtain ⟨requests, error, hissue⟩ := issue_frame { t with activated := true }.reload.1 .actors 0 .listActors
      exact ⟨_, _, requests, error, hissue⟩
    · exact ⟨_, _, _, t.error, rfl⟩

/-! ## Keys in the list -/

theorem clearSearch_frame (t : Tab) : ∃ search view rows list generation requests,
    t.clearSearch.1 = { t with search, view, rows, list, generation, requests } := by
  unfold clearSearch
  split
  · exact ⟨t.search, t.view, t.rows, t.list, t.generation, t.requests, rfl⟩
  · exact ⟨_, _, _, _, _, _, rfl⟩

theorem typeSearch_frame (t : Tab) (k : Key) : ∃ search view rows list generation requests,
    (t.typeSearch k).1 = { t with search, view, rows, list, generation, requests } := by
  unfold typeSearch
  split
  · exact ⟨_, _, _, _, _, _, rfl⟩
  · exact ⟨t.search, t.view, t.rows, t.list, t.generation, t.requests, rfl⟩

theorem openDetail_frame (t : Tab) : ∃ detail view requests error,
    t.openDetail.1 = { t with detail, view, requests, error } := by
  unfold openDetail
  split
  · exact ⟨t.detail, t.view, t.requests, t.error, rfl⟩
  · next r _ =>
    obtain ⟨requests, error, hissue⟩ := issue_frame { t with detail := some r, view := .detail } .detail 0
      (.get t.kind r.id)
    exact ⟨_, _, requests, error, hissue⟩

theorem openBulkPrompt_frame (t : Tab) (field : BulkField) : ∃ prompt view error,
    (t.openBulkPrompt field).1 = { t with prompt, view, error } := by
  unfold openBulkPrompt
  extract_lets supported
  split
  · exact ⟨t.prompt, t.view, _, rfl⟩
  · split
    · exact ⟨t.prompt, t.view, _, rfl⟩
    · exact ⟨_, _, t.error, rfl⟩

/-- Only the form of a new record is ever opened. -/
theorem openAdd_frame (t : Tab) : ∃ view form formToken picker requests error,
    (form = t.form ∨ form = some t.kind.blankForm) ∧
      t.openAdd.1 = { t with view, form, formToken, picker, requests, error } := by
  unfold openAdd
  split
  · exact ⟨t.view, t.form, t.formToken, t.picker, t.requests, _, .inl rfl, rfl⟩
  · split
    · exact ⟨_, t.form, t.formToken, _, t.requests, t.error, .inl rfl, rfl⟩
    · obtain ⟨requests, error, hscopes⟩ := refreshScopes_frame { t.openForm t.kind.blankForm with view := .add }
      exact ⟨_, _, _, t.picker, requests, error, .inr rfl, hscopes⟩

theorem pressToggle_frame (t : Tab) (choice : ToggleChoice) (k : Key) :
    ∃ focus view form formToken picker requests error, (form = t.form ∨ form = some t.kind.blankForm) ∧
      (t.pressToggle choice k).1 = { t with focus, view, form, formToken, picker, requests, error } := by
  have turned (focus : ListFocus) : ∃ focus' view form formToken picker requests error,
      (form = t.form ∨ form = some t.kind.blankForm) ∧ ({ t with focus } : Tab) =
        { t with focus := focus', view, form, formToken, picker, requests, error } :=
    ⟨focus, t.view, t.form, t.formToken, t.picker, t.requests, t.error, .inl rfl, rfl⟩
  unfold pressToggle
  split
  case h_5 =>
    dsimp only
    split
    · exact ⟨_, openAdd_frame { t with focus := .rows }⟩
    · exact turned .rows
  all_goals exact turned _

/-- Keys in the rows leave a form and an editor alone. -/
theorem pressRows_frame (t : Tab) (k : Key) :
    (t.pressRows k).1.form = t.form ∧ (t.pressRows k).1.editors = t.editors := by
  have cleared : t.clearSearch.1.form = t.form ∧ t.clearSearch.1.editors = t.editors := by
    obtain ⟨_, _, _, _, _, _, h⟩ := clearSearch_frame t
    rw [h]
    exact ⟨rfl, rfl⟩
  have typed : (t.typeSearch k).1.form = t.form ∧ (t.typeSearch k).1.editors = t.editors := by
    obtain ⟨_, _, _, _, _, _, h⟩ := typeSearch_frame t k
    rw [h]
    exact ⟨rfl, rfl⟩
  have prompted (field : BulkField) :
      (t.openBulkPrompt field).1.form = t.form ∧ (t.openBulkPrompt field).1.editors = t.editors := by
    obtain ⟨_, _, _, h⟩ := openBulkPrompt_frame t field
    rw [h]
    exact ⟨rfl, rfl⟩
  unfold pressRows
  split
  · split
    · exact ⟨rfl, rfl⟩
    · exact ⟨rfl, rfl⟩
  · exact ⟨rfl, rfl⟩
  · obtain ⟨_, _, _, _, h⟩ := openDetail_frame t
    rw [h]
    exact ⟨rfl, rfl⟩
  · split
    · exact ⟨rfl, rfl⟩
    · exact ⟨rfl, rfl⟩
  · split
    · exact ⟨rfl, rfl⟩
    · exact ⟨rfl, rfl⟩
  · exact cleared
  · exact ⟨rfl, rfl⟩
  · exact ⟨rfl, rfl⟩
  · exact prompted _
  · exact prompted _
  · split
    · exact ⟨rfl, rfl⟩
    · exact cleared
  · split
    · split
      · exact ⟨rfl, rfl⟩
      · exact ⟨rfl, rfl⟩
    · exact typed
  · exact typed

theorem pressList_frame (t : Tab) (k : Key) :
    ((t.pressList k).1.form = t.form ∨ (t.pressList k).1.form = some t.kind.blankForm) ∧
      (t.pressList k).1.editors = t.editors := by
  unfold pressList
  split
  · next choice _ =>
    obtain ⟨_, _, _, _, _, _, _, hform, h⟩ := pressToggle_frame t choice k
    rw [h]
    exact ⟨hform, rfl⟩
  · obtain ⟨hform, heditors⟩ := pressRows_frame t k
    exact ⟨.inl hform, heditors⟩

/-! ## Keys in forms and editors -/

theorem cancelForm_frame (t : Tab) : ∃ view target,
    t.cancelForm = { t with form := none, view, picker := { t.picker with target } } := by
  unfold cancelForm
  dsimp only
  split
  · exact ⟨_, t.picker.target, rfl⟩
  · exact ⟨_, _, rfl⟩
  · exact ⟨_, t.picker.target, rfl⟩

theorem pressField_frame (t : Tab) (f : Form) (k : Key) : ∃ editors,
    t.pressField f k = { t with form := some (f.press k).1, editors } := by
  unfold pressField
  dsimp only
  split
  · exact ⟨_, rfl⟩
  · exact ⟨t.editors, rfl⟩

theorem pressEditor_frame (t : Tab) (e : Editor) (rest : List Editor) (k : Key) : ∃ form editors,
    t.pressEditor e rest k = { t with form, editors } := by
  unfold pressEditor
  split
  · exact ⟨_, _, rfl⟩
  · exact ⟨t.form, _, rfl⟩

/-! ## Deliveries -/

/-- Of the record in detail it may show a newer state, but it shows no other one. -/
theorem refreshDetail_frame (t : Tab) (r : Record) : ∃ detail, (detail = t.detail ∨ detail = some r) ∧
    detail.map Record.id = t.detail.map Record.id ∧ t.refreshDetail r = { t with detail } := by
  unfold refreshDetail
  split
  · next hsame =>
    obtain ⟨d, hdetail, hid⟩ := (Option.any_eq_true _ _).1 hsame
    refine ⟨some r, .inr rfl, ?_, rfl⟩
    rw [hdetail, Option.map_some, Option.map_some, beq_iff_eq.1 hid]
  · exact ⟨t.detail, .inl rfl, rfl, rfl⟩

theorem applyRows_eq (t : Tab) (rs : List Record) :
    t.applyRows rs = { t with
      catalog := if t.search.isEmpty then rs else t.catalog
      rows := rs
      list := t.list.setItems (rs.map t.kind.rowLabel) } := by
  unfold applyRows
  split
  · rfl
  · rfl

theorem applyCandidates_frame (t : Tab) (rs : List Record) : ∃ catalog candidates list,
    t.applyCandidates rs = { t with picker := { t.picker with catalog, candidates, list } } := by
  unfold applyCandidates
  dsimp only
  split
  · exact ⟨_, _, _, rfl⟩
  · exact ⟨t.picker.catalog, _, _, rfl⟩

end RecordDesk.Tab
