import RecordDesk.Proofs.Form.Table
import RecordDesk.Proofs.Tab.OpenEditor
import RecordDesk.Proofs.Tab.Permissions

/-!
Which fields the form of a tab has. A form is opened over the table of its view, blank or from a record, and all
that happens to it from then on is an edit of it (`form_pressForm`); so as long as it is open its fields are those of
the table, in their order (`tabled_after`).
-/

namespace RecordDesk

theorem Kind.formFields_of_creates {k : Kind} (h : k.capabilities.create = true) : 0 < k.formFields.length := by
  cases k with
  | history => cases h
  | entities | relationships | jobs | logs | protocols => exact Nat.succ_pos _

theorem Kind.formFields_of_edits {k : Kind} (h : k.capabilities.edit = true) : 0 < k.formFields.length := by
  cases k with
  | history => cases h
  | entities | relationships | jobs | logs | protocols => exact Nat.succ_pos _

/-- A form that has a field has another one. -/
theorem Kind.two_le_formFields {k : Kind} (h : 0 < k.formFields.length) : 2 ≤ k.formFields.length := by
  revert h
  cases k <;> decide

namespace Tab

/-- The fields of the form in a view. -/
def table (t : Tab) : List FieldSpec :=
  match t.view with
  | .relate .details => relateFields
  | _ => t.kind.formFields

/-- The language of the tree in the form of a view. -/
def language (t : Tab) : TreeLanguage :=
  match t.view with
  | .relate .details => .json
  | _ => t.kind.treeLanguage

/-- The open form has the fields of its table. -/
def Tabled (t : Tab) : Prop := ∀ f, t.form = some f → f.Fits t.table

theorem nodup_table (t : Tab) : (t.table.map FieldSpec.key).Nodup := by
  unfold table
  split
  · exact nodup_relateFields
  · exact t.kind.nodup_formFields

/-- A table has its trees in one language, and in the field that goes with it. -/
theorem eq_field_of_table (t : Tab) {spec : FieldSpec} {language : TreeLanguage} (h : spec ∈ t.table)
    (hkind : spec.kind = .structured language) : language = t.language ∧ spec = language.field := by
  unfold table at h
  unfold Tab.language
  split at h
  · exact eq_field_of_structured_relateFields language spec h hkind
  · exact t.kind.eq_field_of_structured language spec h hkind

theorem two_le_table {t : Tab} (h : 0 < t.table.length) : 2 ≤ t.table.length := by
  have htable : t.table = relateFields ∨ t.table = t.kind.formFields := by
    unfold table
    split
    · exact .inl rfl
    · exact .inr rfl
  rcases htable with htable | htable
  · rw [htable]
    decide
  · rw [htable] at h ⊢
    exact Kind.two_le_formFields h

theorem table_congr {t u : Tab} (hk : u.kind = t.kind) (hv : u.view = t.view) : u.table = t.table := by
  unfold table
  rw [hk, hv]

theorem tabled_of_none {t : Tab} (h : t.form = none) : t.Tabled := fun _ hf => by cases h.symm.trans hf

theorem Tabled.of_edit {t u : Tab} (h : t.Tabled) {f g : Form} (hf : t.form = some f) (edit : f.Edit g)
    (hg : u.form = some g) (hk : u.kind = t.kind) (hv : u.view = t.view) : u.Tabled := by
  intro g' hg'
  obtain rfl : g = g' := Option.some.inj (hg.symm.trans hg')
  rw [table_congr hk hv]
  exact edit.fits (h f hf)

theorem Tabled.congr {t u : Tab} (h : t.Tabled) (hk : u.kind = t.kind) (hface : u.face = t.face) : u.Tabled := by
  intro f hf
  rw [table_congr hk (congrArg Face.view hface)]
  exact h f ((congrArg Face.form hface).symm.trans hf)

/-! ## Forms that are open -/

theorem form_cancelForm (t : Tab) : t.cancelForm.form = none := by
  obtain ⟨_, _, h⟩ := cancelForm_frame t
  rw [h]

theorem form_pressField (t : Tab) (f : Form) (k : Key) :
    (t.pressField f k).form = some (f.press k).1 ∧ (t.pressField f k).view = t.view := by
  obtain ⟨_, h⟩ := pressField_frame t f k
  rw [h]
  exact ⟨rfl, rfl⟩

theorem edit_completeOrNext (t : Tab) (f : Form) : f.Edit (t.completeOrNext f) := by
  unfold completeOrNext
  dsimp only
  split
  · cases hg : f.complete? t.knownScopes with
    | none => exact .next
    | some g => exact .complete hg
  · exact .next

/-- A key of a form closes it or edits it in place. -/
theorem form_pressForm {t : Tab} {f : Form} (hf : t.form = some f) (k : Key) :
    (t.pressForm k).1.form = none ∨
      (t.pressForm k).1.view = t.view ∧ ∃ g, (t.pressForm k).1.form = some g ∧ f.Edit g := by
  unfold pressForm
  rw [hf]
  dsimp only
  split
  · exact .inl (form_cancelForm t)
  · refine .inr ⟨congrArg Face.view (face_saveForm t), f, ?_, .stay⟩
    exact (congrArg Face.form (face_saveForm t)).trans hf
  · exact .inr ⟨rfl, _, rfl, edit_completeOrNext t f⟩
  · exact .inr ⟨rfl, _, rfl, .next⟩
  · exact .inr ⟨rfl, _, rfl, .previous⟩
  · exact .inr ⟨rfl, _, rfl, .previous⟩
  · exact .inr ⟨(form_pressField t f k).2, _, (form_pressField t f k).1, .press k⟩

/-! ## Forms that are opened -/

theorem form_press_of_isList {t : Tab} (he : t.editors = []) (hv : t.view.isList = true) (k : Key) :
    (t.press k).1.form = t.form ∨ (t.press k).1.form = some t.kind.blankForm := by
  rw [press_of_list he hv]
  exact (pressList_frame { t with error := none, notice := none } k).1

/-- Where there is no form, a key opens the one of the view that it turns to, or none. -/
theorem tabled_press_of_closed {t : Tab} (h : t.Coherent) (hnone : t.form = none) (k : Key) :
    (t.press k).1.Tabled := by
  have he : t.editors = [] := h.editors_nil hnone
  have hkind : (t.press k).1.kind = t.kind := kind_handle t (.input (.press k))
  have tabled {f : Form} (specs : List FieldSpec) (hform : (t.press k).1.form = some f)
      (htable : (t.press k).1.table = specs) (hfits : f.Fits specs) : (t.press k).1.Tabled := by
    intro g hg
    obtain rfl : f = g := Option.some.inj (hform.symm.trans hg)
    rw [htable]
    exact hfits
  generalize hy : (t.press k).1.scene = y
  have turn : t.scene.Turn k y := hy ▸ (deed_press t k).1.turn
  have hform : (t.press k).1.form = y.form := congrArg Scene.form hy
  have hview : (t.press k).1.view = y.view := congrArg Scene.view hy
  cases turn with
  | stay | prompt | ask | answer | relate | source | target => exact tabled_of_none (hform.trans hnone)
  | fill form => exact absurd form (by simp [scene, hnone])
  | browse browsing form =>
    exact tabled_of_none (hform.trans (form.elim (fun hf => hf.trans hnone) id))
  | retarget => exact tabled_of_none hform
  | add view able =>
    rcases form_press_of_isList he view k with hsame | hblank
    · exact tabled_of_none (hsame.trans hnone)
    · refine tabled t.kind.formFields hblank ?_ (Form.fits_blank (Kind.formFields_of_creates able))
      unfold table
      rw [hview, hkind]
  | edit key view detail able =>
    refine tabled t.kind.formFields hform ?_ (Form.fits_seeded (Kind.formFields_of_edits able) _)
    unfold table
    rw [hview, hkind]
  | details view =>
    have hpicker := press_of_picker he view (by decide) k
    rcases (pressPicker_opens { t with error := none, notice := none } .target k).2 with hsame | hblank
    · rw [← hpicker] at hsame
      exact tabled_of_none (hsame.trans hnone)
    · rw [← hpicker] at hblank
      refine tabled relateFields hblank ?_ (Form.fits_blank (Nat.succ_pos _))
      unfold table
      rw [hview]

/-! ## Every event -/

theorem tabled_press {t : Tab} (h : t.Coherent) (ht : t.Tabled) (k : Key) : (t.press k).1.Tabled := by
  have hkind : (t.press k).1.kind = t.kind := kind_handle t (.input (.press k))
  cases hform : t.form with
  | none => exact tabled_press_of_closed h hform k
  | some f =>
    rcases h.editing with he | ⟨e, f', he, -, -⟩
    · have hview : t.view.hasForm = true := h.consistent.form.1 (by rw [hform]; rfl)
      have hpress := press_of_form he hview k
      rcases form_pressForm (t := { t with error := none, notice := none }) hform k with hclosed | ⟨hv, g, hg, edit⟩
      · rw [← hpress] at hclosed
        exact tabled_of_none hclosed
      · rw [← hpress] at hv hg
        exact ht.of_edit hform edit hg hkind hv
    · by_cases hk : k = .esc
      · subst hk
        have hpress := press_esc_of_editor he
        refine ht.of_edit hform (.retype e.field e.buffer) ?_ hkind ?_
        · rw [hpress, hform]
          rfl
        · rw [hpress]
      · have hpress := press_of_editor he hk
        refine ht.of_edit hform .stay ?_ hkind ?_
        · rw [hpress]
          exact hform
        · rw [hpress]

theorem tabled_handle {t : Tab} (h : t.Coherent) (ht : t.Tabled) (e : TabEvent) : (t.handle e).1.Tabled := by
  have hkind := kind_handle t e
  cases e with
  | deliver d =>
    have hd := heard_deliver t d
    change t.Heard d (t.handle (.deliver d)) at hd
    generalize t.handle (.deliver d) = r at hd hkind
    cases hd with
    | quiet hs | reload hs => exact ht.congr hkind (congrArg Stage.face hs)
    | saved => exact tabled_of_none rfl
  | input i =>
    cases i with
    | press k => exact tabled_press h ht k
    | activate => exact ht.congr hkind (face_activate t)
    | reload => exact ht.congr hkind rfl
    | viewport height => exact ht.congr hkind rfl

/-- In every state that a tab can come to, the open form has the fields of its table in their order, one of them in
focus, and text staged in no other one. -/
theorem tabled_after (kind : Kind) (es : List TabEvent) : (after kind es).Tabled :=
  (after_induction (motive := fun t => t.Coherent ∧ t.Tabled) ⟨coherent_new kind, tabled_of_none rfl⟩
    (fun _ e h => ⟨h.1.handle e, tabled_handle h.1 h.2 e⟩) es).2

end Tab

end RecordDesk
