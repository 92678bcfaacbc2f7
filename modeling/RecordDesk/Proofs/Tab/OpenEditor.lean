import RecordDesk.Proofs.Form.Table
import RecordDesk.Proofs.Tab.Marking
import RecordDesk.Proofs.Tab.UntouchedForm

/-!
The editor of a tree. One key of a form opens it, on the field in focus and with the text that stands there
(`opened_of_press`); from then on it has all keys, and until it is closed the form stays as it was then
(`exists_openedOn`). Escape puts its text into the field and does nothing else to the form
(`Form.HasTreeAt.retyped`), so an editor that is closed as it was opened leaves the form as it was
(`Form.setStructuredAt_own`).
-/

namespace RecordDesk

namespace Editor

/-- The text of an editor after some keys. -/
def bufferAfter (e : Editor) (ks : List Key) : String := (ks.foldl press e).buffer

/-- No key moves an editor to another field. -/
theorem press_eq (e : Editor) (k : Key) : e.press k = { e with buffer := (e.press k).buffer } := by
  unfold press
  split
  · rfl
  · rfl
  · rfl
  · rfl
  · split
    · rfl
    · rfl

theorem foldl_press (e : Editor) (ks : List Key) : ks.foldl press e = { e with buffer := e.bufferAfter ks } := by
  induction ks generalizing e with
  | nil => rfl
  | cons k ks ih =>
    have hbuffer : e.bufferAfter (k :: ks) = (e.press k).bufferAfter ks := rfl
    rw [List.foldl_cons, ih, hbuffer]
    generalize (e.press k).bufferAfter ks = s
    rw [e.press_eq k]

end Editor

namespace Form

/-- The editor that opens on the field in focus. -/
def editor (f : Form) (language : TreeLanguage) : Editor :=
  ⟨f.focus, (f.focused?.map fun d => d.spec.label).getD "", language, (f.structuredAt? f.focus).getD ""⟩

/-- `g` is `f` but for the tree of the field at an index, whose text is `s`. -/
structure Retyped (f : Form) (index : Nat) (language : TreeLanguage) (s : String) (g : Form) : Prop where
  field : ∃ d old, f.fields[index]? = some d ∧ d.spec.kind = .structured language ∧
    d.value = .structured old ∧ g.fields[index]? = some { d with value := .structured s }
  others : ∀ i, i ≠ index → g.fields[i]? = f.fields[i]?
  focus : g.focus = f.focus

theorem HasTreeAt.retyped {f : Form} {index : Nat} {language : TreeLanguage} (h : f.HasTreeAt index language)
    (s : String) : f.Retyped index language s (f.setStructuredAt index s) := by
  obtain ⟨⟨spec, value⟩, old, hd, hkind, hvalue⟩ := h
  obtain rfl : value = .structured old := hvalue
  have hset : f.setStructuredAt index s = f.setValue index (.structured s) := by simp [setStructuredAt, hd]
  rw [hset]
  refine ⟨⟨_, old, hd, hkind, rfl, ?_⟩, fun i hi => ?_, rfl⟩
  · simp [setValue, hd]
  · simp [setValue, Ne.symm hi]

/-- A tree that gets the text that it has stays as it is. -/
theorem setStructuredAt_own (f : Form) (index : Nat) :
    f.setStructuredAt index ((f.structuredAt? index).getD "") = f := by
  unfold setStructuredAt structuredAt?
  split
  · next spec s hd => exact setValue_own hd
  · rfl

end Form

namespace Tab

/-! ## Opening -/

theorem pressField_cases (t : Tab) (f : Form) (k : Key) :
    (t.pressField f k).editors = t.editors ∨ ∃ language, f.HasTreeAt f.focus language ∧
      t.pressField f k = { t with form := some f, editors := f.editor language :: t.editors } := by
  unfold pressField
  generalize hp : f.press k = p
  obtain ⟨g, outcome⟩ := p
  dsimp only
  split
  · next language =>
    obtain ⟨rfl, htree⟩ := hasTreeAt_of_press hp
    exact .inr ⟨language, htree, rfl⟩
  · exact .inl rfl

theorem editors_cancelForm (t : Tab) : t.cancelForm.editors = t.editors := by
  obtain ⟨_, _, h⟩ := cancelForm_frame t
  rw [h]

theorem pressForm_cases {t : Tab} {f : Form} (hf : t.form = some f) (k : Key) :
    (t.pressForm k).1.editors = t.editors ∨ ∃ language, f.HasTreeAt f.focus language ∧
      t.pressForm k = ({ t with editors := f.editor language :: t.editors }, []) := by
  unfold pressForm
  rw [hf]
  dsimp only
  split
  · exact .inl (editors_cancelForm t)
  · exact .inl (congrArg Face.editors (face_saveForm t))
  · exact .inl rfl
  · exact .inl rfl
  · exact .inl rfl
  · exact .inl rfl
  · refine (pressField_cases t f k).imp id fun ⟨language, htree, hopen⟩ => ⟨language, htree, ?_⟩
    rw [hopen]

/-- The picker opens no editor, and no form but the blank one at its end. -/
theorem pick_opens (t : Tab) (step : RelateStep) : (t.pick step).1.editors = t.editors ∧
    ((t.pick step).1.form = t.form ∨ (t.pick step).1.form = some (.blank relateFields)) := by
  unfold pick
  split
  · exact ⟨rfl, .inl rfl⟩
  · split
    · exact ⟨rfl, .inl rfl⟩
    · split
      · exact ⟨rfl, .inl rfl⟩
      · exact ⟨rfl, .inr rfl⟩

theorem leavePicker_opens (t : Tab) (step : RelateStep) :
    (t.leavePicker step).1.editors = t.editors ∧ (t.leavePicker step).1.form = t.form := by
  unfold leavePicker
  split
  · exact ⟨rfl, rfl⟩
  · exact ⟨rfl, rfl⟩

theorem pressPicker_opens (t : Tab) (step : RelateStep) (k : Key) :
    (t.pressPicker step k).1.editors = t.editors ∧
      ((t.pressPicker step k).1.form = t.form ∨ (t.pressPicker step k).1.form = some (.blank relateFields)) := by
  unfold pressPicker
  split
  · exact ⟨rfl, .inl rfl⟩
  · exact ⟨rfl, .inl rfl⟩
  · exact (leavePicker_opens t step).imp id .inl
  · exact pick_opens t step
  · split
    · exact ⟨rfl, .inl rfl⟩
    · exact ⟨rfl, .inl rfl⟩
  · exact ⟨rfl, .inl rfl⟩
  · split
    · exact ⟨rfl, .inl rfl⟩
    · exact ⟨rfl, .inl rfl⟩

/-- Only the keys of a form open an editor: those that open a form open none with it. -/
theorem hasForm_of_opened {t : Tab} (h : t.Coherent) (he : t.editors = []) {k : Key}
    (hopen : (t.press k).1.editors ≠ []) : t.view.hasForm = true := by
  by_contra hview
  have hnone : t.form = none := h.consistent.form_none (Bool.not_eq_true _ ▸ hview)
  have hsome : (t.press k).1.form ≠ none := fun hf => hopen ((h.press k).editors_nil hf)
  have turn := (deed_press t k).1.turn
  change (t.press k).1.scene.form ≠ none at hsome
  generalize (t.press k).1.scene = y at turn hsome
  cases turn with
  | stay | prompt | ask | answer | relate | source | target => exact hsome hnone
  | fill form => exact absurd form (by simp [scene, hnone])
  | browse browsing form => exact hsome (form.elim (fun hf => hf.trans hnone) id)
  | retarget => exact hsome rfl
  | add view able =>
    rw [press_of_list he view, (pressList_frame _ k).2] at hopen
    exact hopen he
  | edit key view =>
    subst key
    exact hopen (editors_press_edit h view)
  | details view =>
    rw [press_of_picker he view (by decide), (pressPicker_opens _ _ k).1] at hopen
    exact hopen he

theorem opened_of_press {t : Tab} (h : t.Coherent) (he : t.editors = []) {k : Key}
    (hopen : (t.press k).1.editors ≠ []) : ∃ f language, t.form = some f ∧ f.HasTreeAt f.focus language ∧
      t.press k = ({ t with error := none, notice := none, editors := [f.editor language] }, []) := by
  have hview := hasForm_of_opened h he hopen
  obtain ⟨f, hf⟩ := Option.isSome_iff_exists.1 (h.consistent.form.2 hview)
  rw [press_of_form he hview] at hopen ⊢
  rcases pressForm_cases (t := { t with error := none, notice := none }) hf k with hkept | ⟨language, htree, hpress⟩
  · exact absurd (hkept.trans he) hopen
  · refine ⟨f, language, hf, htree, ?_⟩
    rw [hpress]
    show ({ t with error := none, notice := none, editors := _ :: t.editors }, []) = _
    rw [he]

/-! ## Typing and closing -/

theorem press_of_editor {t : Tab} {e : Editor} (he : t.editors = [e]) {k : Key} (hk : k ≠ .esc) :
    t.press k = ({ t with editors := [e.press k] }, []) := by
  simp [press, he, pressEditor, hk]

theorem press_esc_of_editor {t : Tab} {e : Editor} (he : t.editors = [e]) :
    t.press .esc = ({ t with editors := [], form := t.form.map (·.setStructuredAt e.field e.buffer) }, []) := by
  simp [press, he, pressEditor]

theorem press_esc_of_opened {t : Tab} (h : t.Coherent) (he : t.editors = []) {k : Key}
    (hopen : (t.press k).1.editors ≠ []) :
    (t.press k).1.press .esc = ({ t with error := none, notice := none }, []) := by
  obtain ⟨f, language, hf, -, hpress⟩ := opened_of_press h he hopen
  rw [hpress, press_esc_of_editor (e := f.editor language) rfl, hf, Option.map_some]
  have hown : f.setStructuredAt (f.editor language).field (f.editor language).buffer = f :=
    f.setStructuredAt_own f.focus
  rw [hown, ← hf, ← he]

/-! ## While the editor is open -/

theorem keeps_deliver (t : Tab) (d : Delivery) :
    (t.deliver d).1.face = t.face ∨ (t.deliver d).1.editors = [] := by
  have heard := heard_deliver t d
  generalize t.deliver d = r at heard
  cases heard with
  | quiet hs => exact .inl (congrArg Stage.face hs)
  | reload hs => exact .inl (congrArg Stage.face hs)
  | saved hs => exact .inr rfl

theorem editor_press {t : Tab} (h : t.Coherent) {k : Key} {e : Editor} (he : (t.press k).1.editors = [e]) :
    (∃ e₀, t.editors = [e₀] ∧ e = { e₀ with buffer := e.buffer } ∧ (t.press k).1.form = t.form) ∨
      ∃ f, t.editors = [] ∧ t.form = some f ∧ e = f.editor e.language ∧ (t.press k).1.form = t.form := by
  rcases h.editing with hnone | ⟨e₀, f, hopen, -, -⟩
  · obtain ⟨f, language, hf, -, hpress⟩ := opened_of_press (k := k) h hnone (by simp [he])
    rw [hpress] at he ⊢
    obtain rfl := List.singleton_inj.1 he
    exact .inr ⟨f, hnone, hf, rfl, rfl⟩
  · by_cases hk : k = .esc
    · subst hk
      rw [press_esc_of_editor hopen] at he
      cases he
    · rw [press_of_editor hopen hk] at he ⊢
      obtain rfl := List.singleton_inj.1 he
      exact .inl ⟨e₀, hopen, e₀.press_eq k, rfl⟩

/-- Where an editor is open after an event, it was open before, on the same field of the same form; or a key opens it
now, on the field in focus. -/
theorem editor_handle {t : Tab} (h : t.Coherent) (ev : TabEvent) {e : Editor}
    (he : (t.handle ev).1.editors = [e]) :
    (∃ e₀, t.editors = [e₀] ∧ e = { e₀ with buffer := e.buffer } ∧ (t.handle ev).1.form = t.form) ∨
      ∃ k f, ev = .input (.press k) ∧ t.editors = [] ∧ t.form = some f ∧ e = f.editor e.language ∧
        (t.handle ev).1.form = t.form := by
  have kept {u : Tab} (hface : u.face = t.face) (hu : u.editors = [e]) :
      ∃ e₀, t.editors = [e₀] ∧ e = { e₀ with buffer := e.buffer } ∧ u.form = t.form := by
    have heditors : u.editors = t.editors := congrArg Face.editors hface
    exact ⟨e, heditors.symm.trans hu, rfl, congrArg Face.form hface⟩
  cases ev with
  | deliver d =>
    rcases keeps_deliver t d with hface | hnone
    · exact .inl (kept hface he)
    · cases he.symm.trans hnone
  | input i =>
    cases i with
    | activate => exact .inl (kept (face_activate t) he)
    | reload => exact .inl (kept rfl he)
    | viewport height => exact .inl (kept rfl he)
    | press k =>
      rcases editor_press h he with hopen | ⟨f, hopened⟩
      · exact .inl hopen
      · exact .inr ⟨k, f, rfl, hopened⟩

/-- By some events an editor was opened on the field in focus of the form `f`, and has been open since. -/
def OpenedOn (kind : Kind) (es : List TabEvent) (f : Form) (language : TreeLanguage) : Prop :=
  ∃ es₀ k es₁, es = es₀ ++ .input (.press k) :: es₁ ∧ (after kind es₀).editors = [] ∧
    (after kind es₀).form = some f ∧ ((after kind es₀).press k).1.editors = [f.editor language] ∧
    ∀ fs, fs <+: es₁ → (after kind (es₀ ++ .input (.press k) :: fs)).editors ≠ []

theorem exists_openedOn {kind : Kind} {es : List TabEvent} {e : Editor} (he : (after kind es).editors = [e]) :
    ∃ f, OpenedOn kind es f e.language ∧ (after kind es).form = some f ∧ f.focus = e.field := by
  induction es using List.reverseRecOn generalizing e with
  | nil => cases he
  | append_singleton es ev ih =>
    rw [after_concat] at he ⊢
    rcases editor_handle (coherent_after kind es) ev he with ⟨e₀, he₀, hsame, hform⟩ |
      ⟨k, f, rfl, hnone, hf, hopened, hform⟩
    · obtain ⟨f, ⟨es₀, k, es₁, rfl, hbefore, hf, hopened, hsince⟩, hkept, hfocus⟩ := ih he₀
      have hopen := List.ne_nil_of_mem (he ▸ List.mem_singleton_self e)
      have hstill := since_concat (motive := fun t => t.editors ≠ []) hsince hopen
      rw [hsame]
      refine ⟨f, ⟨es₀, k, es₁ ++ [ev], ?_, hbefore, hf, hopened, hstill⟩, hform.trans hkept, hfocus⟩
      rw [List.append_assoc, List.cons_append]
    · -- The key has just opened it.
      change ((after kind es).press k).1.editors = [e] at he
      refine ⟨f, ⟨es, k, [], rfl, hnone, hf, hopened ▸ he, fun fs hfs => ?_⟩, hform.trans hf, ?_⟩
      · obtain rfl := List.prefix_nil.1 hfs
        rw [after_concat]
        exact fun hnone => by cases he.symm.trans hnone
      · rw [hopened]
        rfl

/-- What an open editor is the editor of. -/
theorem form_of_editor (kind : Kind) (es : List TabEvent) {e : Editor} (he : (after kind es).editor? = some e) :
    (after kind es).editors = [e] ∧ ∃ f, OpenedOn kind es f e.language ∧ (after kind es).form = some f ∧
      f.focus = e.field ∧ f.HasTreeAt e.field e.language := by
  unfold editor? at he
  rcases (coherent_after kind es).editing with hnone | ⟨e', f, heditors, hf, htree⟩
  · rw [hnone] at he
    cases he
  · rw [heditors] at he
    cases he
    obtain ⟨g, hopened, hg, hfocus⟩ := exists_openedOn heditors
    obtain rfl : g = f := Option.some.inj (hg.symm.trans hf)
    exact ⟨heditors, g, hopened, hg, hfocus, htree⟩

end Tab

end RecordDesk
