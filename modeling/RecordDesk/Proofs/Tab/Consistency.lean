import RecordDesk.Proofs.Tab.Steps

/-!
The fields of a tab always fit the view that it shows (`consistent_after`): after any keys and any
deliveries, also ones that answer nothing. What is carried from step to step is `Coherent`: what the
view in place asks of the other fields (`Suits`), what an open editor belongs to, and where the focus
may be.
-/

namespace RecordDesk

/-- The field at an index holds a tree that is edited as text in a language. -/
def Form.HasTreeAt (f : Form) (index : Nat) (language : TreeLanguage) : Prop :=
  ∃ d s, f.fields[index]? = some d ∧ d.spec.kind = .structured language ∧ d.value = .structured s

namespace View

/-- The views about one record. -/
def isOfRecord : View → Bool
  | .detail => true
  | .edit => true
  | .confirm _ _ _ => true
  | _ => false

/-- The views that fill in a form. -/
def hasForm : View → Bool
  | .add => true
  | .edit => true
  | .relate .details => true
  | _ => false

end View

namespace Tab

/-- The view and the fields of a tab agree. -/
structure Consistent (t : Tab) : Prop where
  list : t.view = .list → t.search = ""
  search : t.view = .search → t.search ≠ ""
  detail : t.view.isOfRecord = true → t.detail.isSome = true
  form : t.form.isSome = true ↔ t.view.hasForm = true
  editors : t.editors.length ≤ 1
  editor : ∀ e ∈ t.editors, ∃ f, t.form = some f ∧ f.HasTreeAt e.field e.language
  source : t.view = .relate .target → t.picker.source.isSome = true
  ends : t.view = .relate .details →
    ∃ s r, t.picker.source = some s ∧ t.picker.target = some r ∧ s.id ≠ r.id
  focus : t.focus ≠ .rows → t.view = .list ∨ t.view = .search
  back : ∀ action target back, t.view = .confirm action target back → back = .detail

/-- What a view asks of the other fields. -/
def Suits (t : Tab) : View → Prop
  | .list => t.search = "" ∧ t.form = none
  | .search => t.search ≠ "" ∧ t.form = none
  | .detail => t.detail.isSome = true ∧ t.form = none
  | .add => t.form.isSome = true
  | .edit => t.form.isSome = true ∧ t.detail.isSome = true
  | .confirm _ _ back => back = .detail ∧ t.detail.isSome = true ∧ t.form = none
  | .bulkPrompt _ => t.form = none
  | .relate .source => t.form = none
  | .relate .target => t.picker.source.isSome = true ∧ t.form = none
  | .relate .details => t.form.isSome = true ∧
      ∃ s r, t.picker.source = some s ∧ t.picker.target = some r ∧ s.id ≠ r.id

structure Coherent (t : Tab) : Prop where
  suits : t.Suits t.view
  editing : t.editors = [] ∨ ∃ e f, t.editors = [e] ∧ t.form = some f ∧ f.HasTreeAt e.field e.language
  focus : t.focus = .rows ∨ t.view = .list ∨ t.view = .search

theorem Coherent.consistent {t : Tab} (h : t.Coherent) : t.Consistent := by
  obtain ⟨hs, he, hf⟩ := h
  have form : t.form.isSome = true ↔ t.view.hasForm = true := by
    cases hv : t.view with
    | relate step => cases step <;> simp_all [Suits, View.hasForm]
    | _ => simp_all [Suits, View.hasForm]
  have detail : t.view.isOfRecord = true → t.detail.isSome = true := by
    cases hv : t.view <;> simp_all [Suits, View.isOfRecord]
  refine ⟨fun hv => ?_, fun hv => ?_, detail, form, ?_, fun e hm => ?_, fun hv => ?_, fun hv => ?_,
    fun hr => hf.resolve_left hr, fun action target back hv => ?_⟩
  · rw [hv] at hs
    exact hs.1
  · rw [hv] at hs
    exact hs.1
  · rcases he with he | ⟨e, f, he, -⟩
    · rw [he]; exact Nat.zero_le 1
    · rw [he]; exact Nat.le_refl 1
  · rcases he with he | ⟨e', f, he, htf, hl⟩
    · rw [he] at hm; cases hm
    · rw [he, List.mem_singleton] at hm
      exact ⟨f, htf, hm ▸ hl⟩
  · rw [hv] at hs
    exact hs.1
  · rw [hv] at hs
    exact hs.2
  · rw [hv] at hs
    exact hs.1

/-- The part of a tab that coherence is about. -/
structure Face where
  view : View
  search : String
  hasDetail : Bool
  form : Option Form
  editors : List Editor
  source : Option Record
  target : Option Record
  focus : ListFocus

def face (t : Tab) : Face :=
  ⟨t.view, t.search, t.detail.isSome, t.form, t.editors, t.picker.source, t.picker.target, t.focus⟩

theorem Coherent.congr {t u : Tab} (h : t.Coherent) (hf : u.face = t.face) : u.Coherent := by
  simp only [face, Face.mk.injEq] at hf
  obtain ⟨hv, hs, hd, hform, he, hsrc, htgt, hfoc⟩ := hf
  obtain ⟨suits, editing, focus⟩ := h
  refine ⟨?_, ?_, ?_⟩
  · rw [hv]
    cases hview : t.view with
    | relate step => cases step <;> simp_all [Suits]
    | _ => simp_all [Suits]
  · rw [he, hform]
    exact editing
  · rw [hfoc, hv]
    exact focus

/-! ## Tabs without an editor -/

/-- With the focus on the rows and no editor open, only the view counts. -/
theorem coherent_of_suits {t : Tab} (hs : t.Suits t.view) (he : t.editors = []) (hf : t.focus = .rows) :
    t.Coherent := ⟨hs, .inl he, .inl hf⟩

theorem suits_listView {t : Tab} (hf : t.form = none) : t.Suits t.listView := by
  unfold listView
  split
  · next h => exact ⟨String.isEmpty_iff.mp h, hf⟩
  · next h => exact ⟨fun he => h (String.isEmpty_iff.mpr he), hf⟩

theorem listView_eq (t : Tab) : t.listView = .list ∨ t.listView = .search := by
  unfold listView
  split
  · exact .inl rfl
  · exact .inr rfl

theorem coherent_of_listView {t : Tab} (hv : t.view = t.listView) (hf : t.form = none)
    (he : t.editors = []) : t.Coherent :=
  ⟨hv ▸ suits_listView hf, .inl he, .inr (hv ▸ listView_eq t)⟩

theorem Coherent.form_none {t : Tab} (h : t.Coherent) (hl : t.view = .list ∨ t.view = .search) :
    t.form = none := by
  have hs := h.suits
  rcases hl with hl | hl
  · rw [hl] at hs; exact hs.2
  · rw [hl] at hs; exact hs.2

theorem Coherent.editors_nil {t : Tab} (h : t.Coherent) (hf : t.form = none) : t.editors = [] := by
  rcases h.editing with he | ⟨e, f, -, hform, -⟩
  · exact he
  · cases hf.symm.trans hform

theorem press_of_no_editor {t : Tab} (he : t.editors = []) (k : Key) :
    t.press k = { t with error := none, notice := none }.pressView k := by
  unfold press
  rw [he]

theorem Coherent.focus_rows {t : Tab} (h : t.Coherent) (hl : t.view ≠ .list) (hs : t.view ≠ .search) :
    t.focus = .rows := h.focus.resolve_right fun h => h.elim hl hs

theorem face_issue (t : Tab) (slot : Slot) (generation : Nat) (r : Request) :
    (t.issue slot generation r).1.face = t.face := by
  obtain ⟨_, _, h⟩ := issue_frame t slot generation r
  rw [h]
  rfl

theorem face_refreshScopes (t : Tab) : t.refreshScopes.1.face = t.face := by
  obtain ⟨_, _, h⟩ := refreshScopes_frame t
  rw [h]
  rfl

/-! ## Keys in the list -/

theorem coherent_setSearch {t : Tab} (hf : t.form = none) (he : t.editors = []) (search : String) :
    (t.setSearch search).1.Coherent := coherent_of_listView rfl hf he

theorem coherent_clearSearch {t : Tab} (h : t.Coherent) (hf : t.form = none) (he : t.editors = []) :
    t.clearSearch.1.Coherent := by
  unfold clearSearch
  split
  · exact h
  · exact coherent_setSearch hf he ""

theorem coherent_typeSearch {t : Tab} (h : t.Coherent) (hf : t.form = none) (he : t.editors = [])
    (k : Key) : (t.typeSearch k).1.Coherent := by
  unfold typeSearch
  split
  · exact coherent_setSearch hf he _
  · exact h

theorem coherent_openDetail {t : Tab} (h : t.Coherent) (hf : t.form = none) (he : t.editors = [])
    (hr : t.focus = .rows) : t.openDetail.1.Coherent := by
  unfold openDetail
  split
  · exact h
  · next r _ =>
    have hd : ({ t with detail := some r, view := .detail } : Tab).Coherent :=
      coherent_of_suits ⟨rfl, hf⟩ he hr
    exact hd.congr (face_issue _ _ _ _)

theorem coherent_openAdd {t : Tab} (h : t.Coherent) (hf : t.form = none) (he : t.editors = [])
    (hr : t.focus = .rows) : t.openAdd.1.Coherent := by
  unfold openAdd
  split
  · exact h.congr rfl
  · split
    · exact coherent_of_suits hf he hr
    · have ha : ({ t.openForm t.kind.blankForm with view := .add } : Tab).Coherent :=
        coherent_of_suits rfl he hr
      exact ha.congr (face_refreshScopes _)

theorem coherent_pressToggle {t : Tab} (h : t.Coherent) (hl : t.view = .list ∨ t.view = .search)
    (he : t.editors = []) (choice : ToggleChoice) (k : Key) : (t.pressToggle choice k).1.Coherent := by
  have toggle (focus : ListFocus) : ({ t with focus } : Tab).Coherent := ⟨h.suits, .inl he, .inr hl⟩
  unfold pressToggle
  split
  · exact toggle _
  · exact toggle _
  · exact toggle _
  · exact toggle _
  · dsimp only
    split
    · exact coherent_openAdd (toggle _) (h.form_none hl) he rfl
    · exact toggle _
  · exact h

theorem coherent_openBulkPrompt {t : Tab} (h : t.Coherent) (hf : t.form = none) (he : t.editors = [])
    (hr : t.focus = .rows) (field : BulkField) : (t.openBulkPrompt field).1.Coherent := by
  unfold openBulkPrompt
  extract_lets supported
  split
  · exact h.congr rfl
  · split
    · exact h.congr rfl
    · exact coherent_of_suits hf he hr

theorem coherent_pressRows {t : Tab} (h : t.Coherent) (hl : t.view = .list ∨ t.view = .search)
    (he : t.editors = []) (hr : t.focus = .rows) (k : Key) : (t.pressRows k).1.Coherent := by
  have hf := h.form_none hl
  unfold pressRows
  split
  · split
    · exact ⟨h.suits, .inl he, .inr hl⟩
    · exact h.congr rfl
  · exact h.congr rfl
  · exact coherent_openDetail h hf he hr
  · split
    · exact coherent_setSearch hf he _
    · exact h
  · split
    · exact h
    · exact coherent_setSearch hf he _
  · exact coherent_clearSearch h hf he
  · exact h.congr rfl
  · exact h.congr rfl
  · exact coherent_openBulkPrompt h hf he hr _
  · exact coherent_openBulkPrompt h hf he hr _
  · split
    · exact h.congr rfl
    · exact coherent_clearSearch h hf he
  · split
    · split
      · exact h.congr rfl
      · exact h
    · exact coherent_typeSearch h hf he _
  · exact coherent_typeSearch h hf he _

theorem coherent_pressList {t : Tab} (h : t.Coherent) (hl : t.view = .list ∨ t.view = .search)
    (he : t.editors = []) (k : Key) : (t.pressList k).1.Coherent := by
  unfold pressList
  split
  · exact coherent_pressToggle h hl he _ k
  · next hr => exact coherent_pressRows h hl he hr k

/-! ## Keys about one record -/

theorem coherent_openConfirm {t : Tab} (h : t.Coherent) (hv : t.view = .detail) (he : t.editors = [])
    (hr : t.focus = .rows) (action : ConfirmAction) (target : String) :
    (t.openConfirm action target).1.Coherent := by
  unfold openConfirm
  split
  · exact h.congr rfl
  · have hs := h.suits
    rw [hv] at hs
    exact coherent_of_suits ⟨hv, hs⟩ he hr

theorem coherent_archiveDetail {t : Tab} (h : t.Coherent) (hv : t.view = .detail) (he : t.editors = [])
    (hr : t.focus = .rows) (r : Record) : (t.archiveDetail r).1.Coherent := by
  unfold archiveDetail
  split
  · exact h.congr rfl
  · exact coherent_openConfirm h hv he hr _ _

theorem coherent_pressDetail {t : Tab} (h : t.Coherent) (hv : t.view = .detail) (he : t.editors = [])
    (k : Key) : (t.pressDetail k).1.Coherent := by
  have hr : t.focus = .rows := h.focus_rows (by rw [hv]; simp) (by rw [hv]; simp)
  obtain ⟨hd, hf⟩ : t.detail.isSome = true ∧ t.form = none := by
    have hs := h.suits
    rw [hv] at hs
    exact hs
  have closed : t.closeDetail.1.Coherent := coherent_of_listView rfl hf he
  unfold pressDetail
  split
  · exact coherent_of_listView rfl hf he
  · next r hdr =>
    split
    · split
      · have hedit : ({ t.openForm (t.kind.seedForm r) with view := .edit } : Tab).Coherent :=
          coherent_of_suits ⟨rfl, hd⟩ he hr
        exact hedit.congr (face_refreshScopes _)
      · exact h
    · split
      · exact coherent_archiveDetail h hv he hr r
      · exact h
    · split
      · exact coherent_openConfirm h hv he hr _ _
      · exact h
    · exact h.congr (face_issue _ _ _ _)
    · exact closed
    · exact closed
    · exact h

theorem coherent_pressConfirm {t : Tab} (h : t.Coherent) (he : t.editors = []) {action : ConfirmAction}
    {target : String} {back : View} (hv : t.view = .confirm action target back) (k : Key) :
    (t.pressConfirm action target back k).1.Coherent := by
  have hr : t.focus = .rows := h.focus_rows (by rw [hv]; simp) (by rw [hv]; simp)
  obtain ⟨rfl, hd, hf⟩ : back = .detail ∧ t.detail.isSome = true ∧ t.form = none := by
    have hs := h.suits
    rw [hv] at hs
    exact hs
  have no : ({ t with view := .detail } : Tab).Coherent := coherent_of_suits ⟨hd, hf⟩ he hr
  have yes (r : Request) : ({ t with view := .detail }.issue .confirm 0 r : Tab × List Command).1.Coherent :=
    no.congr (face_issue _ _ _ _)
  unfold pressConfirm
  dsimp only
  split
  · exact yes _
  · exact yes _
  · exact no
  · exact no
  · exact no
  · exact h

/-! ## Keys in prompts, forms and editors -/

theorem coherent_sendBulk {t : Tab} (h : t.Coherent) (hf : t.form = none) (he : t.editors = [])
    (field : BulkField) : (t.sendBulk field).1.Coherent := by
  unfold sendBulk
  split
  · exact h.congr rfl
  · next edit _ =>
    generalize hi : t.issue .bulk 0 (.bulkUpdate t.kind t.marks.toList edit) = i
    have hface : i.1.face = t.face := by rw [← hi]; exact face_issue _ _ _ _
    dsimp only
    split
    · exact h.congr hface
    · have hfi : i.1.form = t.form := congrArg Face.form hface
      have hei : i.1.editors = t.editors := congrArg Face.editors hface
      exact coherent_of_listView rfl (hfi.trans hf) (hei.trans he)

theorem coherent_pressBulkPrompt {t : Tab} (h : t.Coherent) {field : BulkField}
    (hv : t.view = .bulkPrompt field) (he : t.editors = []) (k : Key) :
    (t.pressBulkPrompt field k).1.Coherent := by
  have hf : t.form = none := by
    have hs := h.suits
    rw [hv] at hs
    exact hs
  unfold pressBulkPrompt
  split
  · exact coherent_of_listView rfl hf he
  · exact coherent_sendBulk h hf he field
  · exact h.congr rfl
  · exact h.congr rfl
  · split
    · exact h.congr rfl
    · exact h

/-- Nothing but its presence is asked of the form. -/
theorem suits_setForm {t : Tab} {v : View} (h : t.Suits v) (hf : t.form.isSome = true) (f : Form)
    (editors : List Editor) : ({ t with form := some f, editors } : Tab).Suits v := by
  cases v with
  | relate step => cases step <;> simp_all [Suits]
  | _ => simp_all [Suits]

theorem Coherent.setForm {t : Tab} (h : t.Coherent) (hf : t.form.isSome = true) (f : Form) :
    ({ t with form := some f, editors := [] } : Tab).Coherent :=
  ⟨suits_setForm h.suits hf f [], .inl rfl, h.focus⟩

theorem coherent_cancelForm {t : Tab} (h : t.Coherent) (he : t.editors = [])
    (hv : t.view.hasForm = true) : t.cancelForm.Coherent := by
  have hr : t.focus = .rows := by
    apply h.focus_rows <;> intro hl <;> rw [hl] at hv <;> exact Bool.false_ne_true hv
  have hs := h.suits
  unfold cancelForm
  dsimp only
  split
  · next hview =>
    rw [hview] at hs
    exact coherent_of_suits ⟨hs.2, rfl⟩ he hr
  · next hview =>
    rw [hview] at hs
    obtain ⟨-, s, r, hsrc, -, -⟩ := hs
    refine coherent_of_suits ⟨?_, rfl⟩ he hr
    show t.picker.source.isSome = true
    rw [hsrc]
    rfl
  · exact coherent_of_listView rfl rfl he

theorem face_saveForm (t : Tab) : t.saveForm.1.face = t.face := by
  obtain ⟨_, _, h⟩ := saveForm_frame t
  rw [h]
  rfl

/-- An editor opens on the field in focus, which holds a tree. -/
theorem hasTreeAt_of_press {f g : Form} {k : Key} {language : TreeLanguage}
    (h : f.press k = (g, .openEditor language)) : g = f ∧ f.HasTreeAt f.focus language := by
  unfold Form.press at h
  split at h
  · simp at h
  · next d hd =>
    split at h
    · simp at h
    · next l hl =>
      simp only [Prod.mk.injEq, Form.Outcome.openEditor.injEq] at h
      obtain ⟨rfl, rfl⟩ := h
      have not_ofValue (v : Option FieldValue) : FieldEffect.ofValue v ≠ .openEditor l := by
        cases v <;> simp [FieldEffect.ofValue]
      unfold Field.press at hl
      split at hl
      · exact absurd hl (not_ofValue _)
      · exact absurd hl (not_ofValue _)
      · exact absurd hl (not_ofValue _)
      · next s hval =>
        split at hl
        · next hkind =>
          rw [FieldEffect.openEditor.injEq] at hl
          exact ⟨rfl, d, s, hd, hl ▸ hkind, hval⟩
        · simp at hl
    · simp at h

theorem coherent_pressField {t : Tab} (h : t.Coherent) (he : t.editors = []) (hf : t.form.isSome = true)
    (f : Form) (k : Key) : (t.pressField f k).Coherent := by
  have set (g : Form) : ({ t with form := some g } : Tab).Coherent :=
    (h.setForm hf g).congr (by simp only [face, he])
  unfold pressField
  generalize hp : f.press k = p
  obtain ⟨g, outcome⟩ := p
  dsimp only
  split
  · next language =>
    obtain ⟨rfl, htree⟩ := hasTreeAt_of_press hp
    exact ⟨suits_setForm h.suits hf g _, .inr ⟨_, g, congrArg (_ :: ·) he, rfl, htree⟩, h.focus⟩
  · exact set g

theorem coherent_pressForm {t : Tab} (h : t.Coherent) (he : t.editors = []) (hv : t.view.hasForm = true)
    (k : Key) : (t.pressForm k).1.Coherent := by
  have hf : t.form.isSome = true := h.consistent.form.mpr hv
  have set (g : Form) : ({ t with form := some g } : Tab).Coherent :=
    (h.setForm hf g).congr (by simp only [face, he])
  unfold pressForm
  split
  · next hn => rw [hn] at hf; exact absurd hf Bool.false_ne_true
  · split
    · exact coherent_cancelForm h he hv
    · exact h.congr (face_saveForm t)
    · exact set _
    · exact set _
    · exact set _
    · exact set _
    · exact coherent_pressField h he hf _ k

theorem field_press (e : Editor) (k : Key) : (e.press k).field = e.field ∧ (e.press k).language = e.language := by
  unfold Editor.press
  split
  · exact ⟨rfl, rfl⟩
  · exact ⟨rfl, rfl⟩
  · exact ⟨rfl, rfl⟩
  · exact ⟨rfl, rfl⟩
  · split
    · exact ⟨rfl, rfl⟩
    · exact ⟨rfl, rfl⟩

theorem coherent_pressEditor {t : Tab} (h : t.Coherent) {e : Editor} {rest : List Editor}
    (he : t.editors = e :: rest) (k : Key) : (t.pressEditor e rest k).Coherent := by
  rcases h.editing with hn | ⟨e', f, he', htf, htree⟩
  · rw [hn] at he; cases he
  · rw [he'] at he
    obtain ⟨rfl, rfl⟩ := List.cons.inj he
    unfold pressEditor
    split
    · rw [htf]
      exact h.setForm (by rw [htf]; rfl) _
    · obtain ⟨hfield, hlang⟩ := field_press e' k
      refine ⟨h.suits, .inr ⟨e'.press k, f, rfl, htf, ?_⟩, h.focus⟩
      rw [hfield, hlang]
      exact htree

/-! ## Keys in the picker -/

theorem face_setPickerQuery (t : Tab) (query : String) : (t.setPickerQuery query).1.face = t.face := rfl

theorem coherent_pick {t : Tab} (h : t.Coherent) {step : RelateStep} (hv : t.view = .relate step)
    (hd : step ≠ .details) (he : t.editors = []) : (t.pick step).1.Coherent := by
  have hr : t.focus = .rows := h.focus_rows (by rw [hv]; simp) (by rw [hv]; simp)
  have hs := h.suits
  rw [hv] at hs
  unfold pick
  split
  · exact h
  · next r _ =>
    split
    · next hstep =>
      rw [hstep] at hs
      exact coherent_of_suits ⟨rfl, hs⟩ he hr
    · next hstep =>
      obtain rfl : step = .target := by cases step <;> simp_all
      obtain ⟨s, hsrc⟩ := Option.isSome_iff_exists.mp hs.1
      split
      · exact h.congr rfl
      · next hne =>
        refine coherent_of_suits ⟨rfl, s, r, hsrc, rfl, fun heq => hne ?_⟩ he hr
        rw [hsrc]
        simp [heq]

theorem coherent_leavePicker {t : Tab} (h : t.Coherent) {step : RelateStep} (hv : t.view = .relate step)
    (hd : step ≠ .details) (he : t.editors = []) : (t.leavePicker step).1.Coherent := by
  have hr : t.focus = .rows := h.focus_rows (by rw [hv]; simp) (by rw [hv]; simp)
  have hs := h.suits
  rw [hv] at hs
  unfold leavePicker
  split
  · next hstep =>
    rw [hstep] at hs
    exact coherent_of_suits hs.2 he hr
  · next hstep =>
    obtain rfl : step = .source := by cases step <;> simp_all
    exact coherent_of_listView rfl hs he

theorem coherent_pressPicker {t : Tab} (h : t.Coherent) {step : RelateStep} (hv : t.view = .relate step)
    (hd : step ≠ .details) (he : t.editors = []) (k : Key) : (t.pressPicker step k).1.Coherent := by
  unfold pressPicker
  split
  · exact h.congr rfl
  · exact h.congr rfl
  · exact coherent_leavePicker h hv hd he
  · exact coherent_pick h hv hd he
  · split
    · exact h
    · exact h.congr (face_setPickerQuery t _)
  · exact h.congr (face_setPickerQuery t _)
  · split
    · exact h.congr (face_setPickerQuery t _)
    · exact h

theorem coherent_pressView {t : Tab} (h : t.Coherent) (he : t.editors = []) (k : Key) :
    (t.pressView k).1.Coherent := by
  unfold pressView
  split
  · next hv => exact coherent_pressList h (.inl hv) he k
  · next hv => exact coherent_pressList h (.inr hv) he k
  · next hv => exact coherent_pressDetail h hv he k
  · next hv => exact coherent_pressForm h he (by rw [hv]; rfl) k
  · next hv => exact coherent_pressForm h he (by rw [hv]; rfl) k
  · next hv => exact coherent_pressConfirm h he hv k
  · next hv => exact coherent_pressBulkPrompt h hv he k
  · next hv => exact coherent_pressForm h he (by rw [hv]; rfl) k
  · next step hdetails hv =>
    exact coherent_pressPicker h hv hdetails he k

/-! ## Steps and runs -/

theorem Coherent.press {t : Tab} (h : t.Coherent) (k : Key) : (t.press k).1.Coherent := by
  unfold Tab.press
  split
  · next he => exact coherent_pressEditor h he k
  · next he =>
    exact coherent_pressView (t := { t with error := none, notice := none }) (h.congr rfl) he k

theorem Coherent.take {t : Tab} (h : t.Coherent) (i : TabInput) : (t.take i).1.Coherent := by
  cases i with
  | activate =>
    show t.activate.1.Coherent
    unfold activate
    split
    · exact h
    · dsimp only
      split
      · have hl : ({ t with activated := true } : Tab).reload.1.Coherent := h.congr rfl
        exact hl.congr (face_issue _ _ _ _)
      · exact h.congr rfl
  | reload => exact h.congr rfl
  | viewport height => exact h.congr rfl
  | press k => exact h.press k

theorem face_refreshDetail (t : Tab) (r : Record) : (t.refreshDetail r).face = t.face := by
  obtain ⟨detail, -, hid, h⟩ := refreshDetail_frame t r
  have hsome : detail.isSome = t.detail.isSome := by
    rw [← Option.isSome_map (f := Record.id), hid, Option.isSome_map]
  rw [h]
  unfold face
  rw [hsome]

theorem face_applyRows (t : Tab) (rs : List Record) : (t.applyRows rs).face = t.face := by
  rw [applyRows_eq]
  rfl

theorem face_applyCandidates (t : Tab) (rs : List Record) : (t.applyCandidates rs).face = t.face := by
  obtain ⟨_, _, _, h⟩ := applyCandidates_frame t rs
  rw [h]
  rfl

theorem Coherent.saved {t : Tab} (h : t.Coherent) (token : Nat) (r : Record) :
    (t.saved token r).1.Coherent := by
  unfold Tab.saved
  dsimp only
  split
  · next ho =>
    -- The form is closed from a form's view, where the focus is on the rows.
    have hr : t.focus = .rows := by
      unfold ownsForm at ho
      rw [Bool.and_eq_true] at ho
      apply h.focus_rows <;> intro hl <;> rw [hl] at ho <;> exact Bool.false_ne_true ho.2
    exact coherent_of_suits ⟨rfl, rfl⟩ rfl hr
  · exact h.congr (face_refreshDetail _ r)

theorem Coherent.applyAnswer {t : Tab} (h : t.Coherent) (slot : Slot) (generation : Nat) (a : Answer) :
    (t.applyAnswer slot generation a).1.Coherent := by
  unfold Tab.applyAnswer
  split
  · exact h.congr (face_applyRows t _)
  · exact h.congr (face_applyCandidates t _)
  · exact h.congr (face_refreshDetail t _)
  · exact h.saved generation _
  · exact h.congr (face_refreshDetail _ _)
  · exact h.congr rfl
  · exact h.congr rfl
  · exact h.congr rfl
  · exact h.congr rfl
  · exact h

theorem Coherent.deliver {t : Tab} (h : t.Coherent) (d : Delivery) : (t.deliver d).1.Coherent := by
  unfold Tab.deliver
  split
  · exact h
  · split
    · exact h.congr rfl
    · have hi : ({ t with requests := t.requests.set d.slot .idle } : Tab).Coherent := h.congr rfl
      exact hi.applyAnswer d.slot d.generation _

theorem coherent_new (kind : Kind) : (new kind).Coherent := coherent_of_suits ⟨rfl, rfl⟩ rfl rfl

theorem Coherent.handle {t : Tab} (h : t.Coherent) (e : TabEvent) : (t.handle e).1.Coherent := by
  cases e with
  | input i => exact h.take i
  | deliver d => exact h.deliver d

theorem coherent_after (kind : Kind) (es : List TabEvent) : (after kind es).Coherent :=
  after_induction (coherent_new kind) (fun _ e h => h.handle e) es

/-- The view and the fields agree in every state that a tab can come to. -/
theorem consistent_after (kind : Kind) (es : List TabEvent) : (after kind es).Consistent :=
  (coherent_after kind es).consistent

end Tab

end RecordDesk
