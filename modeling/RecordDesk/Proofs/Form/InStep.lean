import RecordDesk.Form.State
import RecordDesk.Proofs.Form.Sound

/-!
The two lists of a form in step. As long as there is a value for each line of the table (`InStep`), all that is done to
the lists is done to the form of lines with their values (`form_change`), and keeps them in step (`InStep.change`): no
change is made to the table, and each puts values in the place of others. So what is read off the two lists is what the
form of lines has (`read_changed`), and they are as well-formed as that is (`sound_after`).
-/

namespace RecordDesk

namespace FormState

variable {f g : FormState} {table : List FieldSpec}

/-- There is one value for each line of the table. -/
def InStep (f : FormState) : Prop := f.values.length = f.specs.length

def change (f : FormState) : FormChange → FormState
  | .press k => (f.press k).1
  | .next => f.focusNext
  | .previous => f.focusPrevious
  | .setText key s => f.setText key s
  | .setStructuredAt index s => f.setStructuredAt index s
  | .complete names => (f.complete? names).getD f

def changed (f : FormState) (cs : List FormChange) : FormState := cs.foldl change f

/-- A form that nothing has changed yet. -/
inductive New (table : List FieldSpec) : FormState → Prop where
  | blank : New table (blank table)
  | seeded (r : Record) : New table (seeded table r)

/-! ## The two lists -/

/-- The table is the same, and there are as many values. -/
structure SameShape (f g : FormState) : Prop where
  specs : g.specs = f.specs
  values : g.values.length = f.values.length

theorem SameShape.refl (f : FormState) : SameShape f f := ⟨rfl, rfl⟩

theorem SameShape.setFocus (h : SameShape f g) (focus : Nat) : SameShape f { g with focus := focus } :=
  ⟨h.specs, h.values⟩

theorem SameShape.inStep (h : SameShape f g) (hf : f.InStep) : g.InStep := by
  unfold InStep
  rw [h.values, h.specs]
  exact hf

theorem sameShape_setValue (f : FormState) (index : Nat) (v : FieldValue) : SameShape f (f.setValue index v) :=
  ⟨rfl, List.length_set⟩

theorem sameShape_commitFocused (f : FormState) : SameShape f f.commitFocused := by
  unfold commitFocused
  split
  · exact sameShape_setValue f _ _
  · exact .refl f

theorem sameShape_focusNext (f : FormState) : SameShape f f.focusNext := by
  unfold focusNext
  dsimp only
  split
  · exact sameShape_commitFocused f
  · exact (sameShape_commitFocused f).setFocus _

theorem sameShape_focusPrevious (f : FormState) : SameShape f f.focusPrevious := by
  unfold focusPrevious
  dsimp only
  split
  · exact sameShape_commitFocused f
  · exact (sameShape_commitFocused f).setFocus _

theorem sameShape_press (f : FormState) (k : Key) : SameShape f (f.press k).1 := by
  unfold press
  split
  · split
    · exact sameShape_setValue f _ _
    · exact .refl f
    · exact .refl f
  · exact .refl f

theorem sameShape_setText (f : FormState) (key s : String) : SameShape f (f.setText key s) := by
  unfold setText
  split
  · exact .refl f
  · split
    · exact sameShape_setValue f _ _
    · exact sameShape_setValue f _ _
    · exact .refl f

theorem sameShape_setStructuredAt (f : FormState) (index : Nat) (s : String) :
    SameShape f (f.setStructuredAt index s) := by
  unfold setStructuredAt
  split
  · exact sameShape_setValue f _ _
  · exact .refl f

theorem sameShape_complete (f : FormState) (names : List String) : SameShape f ((f.complete? names).getD f) := by
  unfold complete?
  split
  · next e he =>
    cases e.complete? names with
    | none => exact .refl f
    | some e => exact sameShape_setValue f _ _
  · exact .refl f

/-- No change is made to the table, and none adds a value or takes one away. -/
theorem sameShape_change (f : FormState) (c : FormChange) : SameShape f (f.change c) := by
  cases c with
  | press k => exact sameShape_press f k
  | next => exact sameShape_focusNext f
  | previous => exact sameShape_focusPrevious f
  | setText key s => exact sameShape_setText f key s
  | setStructuredAt index s => exact sameShape_setStructuredAt f index s
  | complete names => exact sameShape_complete f names

theorem InStep.change (h : f.InStep) (c : FormChange) : (f.change c).InStep := (sameShape_change f c).inStep h

/-- A key changes no value but the one in focus. -/
theorem press_frame (f : FormState) (k : Key) :
    (f.press k).1.focus = f.focus ∧ ∀ i, i ≠ f.focus → (f.press k).1.values[i]? = f.values[i]? := by
  unfold press
  split
  · split
    · exact ⟨rfl, fun i hi => List.getElem?_set_ne hi.symm⟩
    · exact ⟨rfl, fun _ _ => rfl⟩
    · exact ⟨rfl, fun _ _ => rfl⟩
  · exact ⟨rfl, fun _ _ => rfl⟩

/-! ## Lines with their values -/

theorem getElem?_form_fields (f : FormState) (i : Nat) :
    f.form.fields[i]? = (f.specs[i]?).bind fun s => (f.values[i]?).map fun v => ⟨s, v⟩ := by
  unfold form
  rw [List.getElem?_zipWith]
  cases f.specs[i]? <;> cases f.values[i]? <;> rfl

/-- At an index there is a line with its value, or neither of them. -/
theorem InStep.cases_at (h : f.InStep) (i : Nat) :
    (∃ s v, f.specs[i]? = some s ∧ f.values[i]? = some v ∧ f.form.fields[i]? = some ⟨s, v⟩) ∨
      f.specs[i]? = none ∧ f.values[i]? = none ∧ f.form.fields[i]? = none := by
  rw [getElem?_form_fields]
  by_cases hi : i < f.specs.length
  · have hi' : i < f.values.length := h ▸ hi
    exact .inl ⟨f.specs[i], f.values[i], by simp [hi, hi']⟩
  · have hi' : ¬ i < f.values.length := h ▸ hi
    exact .inr (by simp [hi, hi'])

theorem InStep.cases_focused (h : f.InStep) :
    (∃ s v, f.specs[f.focus]? = some s ∧ f.values[f.focus]? = some v ∧ f.form.focused? = some ⟨s, v⟩) ∨
      f.specs[f.focus]? = none ∧ f.values[f.focus]? = none ∧ f.form.focused? = none :=
  h.cases_at f.focus

theorem InStep.map_spec_form (h : f.InStep) : f.form.fields.map Field.spec = f.specs := by
  apply List.ext_getElem?
  intro i
  rw [List.getElem?_map]
  rcases h.cases_at i with ⟨s, v, hs, -, hd⟩ | ⟨hs, -, hd⟩ <;> rw [hs, hd] <;> rfl

theorem InStep.length_form (h : f.InStep) : f.form.fields.length = f.specs.length := by
  rw [← h.map_spec_form, List.length_map]

/-- The value at an index is that of the field there. -/
theorem InStep.getElem?_values (h : f.InStep) (i : Nat) : f.values[i]? = f.form.fields[i]?.map Field.value := by
  rcases h.cases_at i with ⟨s, v, -, hv, hd⟩ | ⟨-, hv, hd⟩ <;> rw [hv, hd] <;> rfl

theorem InStep.index?_eq (h : f.InStep) (key : String) :
    f.index? key = f.form.fields.findIdx? (·.spec.key == key) := by
  unfold index?
  rw [← h.map_spec_form, List.findIdx?_map]
  rfl

/-- The value of a key is that of the field with this key. -/
theorem InStep.value?_eq (h : f.InStep) (key : String) : f.value? key = (f.form.find? key).map Field.value := by
  unfold value? Form.find?
  rw [h.index?_eq, List.find?_eq_bind_findIdx?_getElem?]
  cases f.form.fields.findIdx? (·.spec.key == key) with
  | none => rfl
  | some i => exact h.getElem?_values i

/-! ## New forms -/

theorem New.inStep (h : f.New table) : f.InStep := by
  cases h with
  | blank => exact List.length_map _
  | seeded r => exact (List.length_mapIdx).trans (List.length_map _)

/-- What is seeded into the blank value of a kind is what a record holds for it. -/
theorem seedValue_blank (r : Record) (s : FieldSpec) : seedValue r s (.blank s.kind) = Form.seed r s := by
  unfold seedValue Form.seed
  cases s.kind with
  | structured language => cases language <;> rfl
  | _ => rfl

theorem form_blank (table : List FieldSpec) : (blank table).form = Form.blank table := by
  unfold form blank Form.blank
  simp [List.zipWith_map_right]

theorem form_seeded (table : List FieldSpec) (r : Record) : (seeded table r).form = Form.seeded table r := by
  have hfields : (seeded table r).form.fields = (Form.seeded table r).fields := by
    apply List.ext_getElem?
    intro i
    rw [getElem?_form_fields]
    simp only [seeded, blank, Form.seeded, List.getElem?_mapIdx, List.getElem?_map]
    cases table[i]? with
    | none => rfl
    | some s => exact congrArg (fun v => some (⟨s, v⟩ : Field)) (seedValue_blank r s)
  exact congrArg (Form.mk · 0) hfields

theorem New.new_form (h : f.New table) : f.form.New table := by
  cases h with
  | blank => exact form_blank table ▸ .blank
  | seeded r => exact form_seeded table r ▸ .seeded r

/-! ## Changes -/

theorem form_setValue (f : FormState) (index : Nat) (v : FieldValue) :
    (f.setValue index v).form = f.form.setValue index v := by
  have hfields : (f.setValue index v).form.fields = (f.form.setValue index v).fields := by
    apply List.ext_getElem?
    intro i
    simp only [Form.setValue, List.getElem?_modify, getElem?_form_fields, setValue]
    by_cases hi : index = i
    · subst hi
      rw [List.getElem?_set_self']
      cases f.specs[index]? <;> cases f.values[index]? <;> simp
    · rw [List.getElem?_set_ne hi]
      cases f.specs[i]? <;> cases f.values[i]? <;> simp [hi]
  exact congrArg (Form.mk · f.focus) hfields

theorem InStep.focusedLabels?_form (h : f.InStep) : f.form.focusedLabels? = f.focusedLabels? := by
  unfold Form.focusedLabels? focusedLabels?
  rcases h.cases_focused with ⟨s, v, -, hv, hd⟩ | ⟨-, hv, hd⟩
  · rw [hv, hd]
    cases v <;> rfl
  · rw [hv, hd]

theorem InStep.form_commitFocused (h : f.InStep) : f.commitFocused.form = f.form.commitFocused := by
  unfold FormState.commitFocused Form.commitFocused
  rw [h.focusedLabels?_form]
  cases f.focusedLabels? with
  | none => rfl
  | some e => exact form_setValue f _ _

/-- Moving the focus of the lists and of the form. -/
theorem InStep.form_move (h : f.InStep) (move : Nat → Nat → Nat) :
    (if f.specs.isEmpty then f else { f with focus := move f.focus f.specs.length }).form =
      if f.form.fields.isEmpty then f.form else { f.form with focus := move f.form.focus f.form.fields.length } := by
  have hempty : f.specs.isEmpty = f.form.fields.isEmpty := by
    rw [← h.map_spec_form, List.isEmpty_map]
  rw [hempty, h.length_form]
  split <;> rfl

theorem InStep.form_focusNext (h : f.InStep) : f.focusNext.form = f.form.focusNext := by
  unfold focusNext Form.focusNext
  rw [← h.form_commitFocused]
  exact ((sameShape_commitFocused f).inStep h).form_move fun focus length => (focus + 1) % length

theorem InStep.form_focusPrevious (h : f.InStep) : f.focusPrevious.form = f.form.focusPrevious := by
  unfold focusPrevious Form.focusPrevious
  rw [← h.form_commitFocused]
  exact ((sameShape_commitFocused f).inStep h).form_move fun focus length => (focus + length - 1) % length

theorem InStep.form_press (h : f.InStep) (k : Key) :
    ((f.press k).1.form, (f.press k).2) = f.form.press k := by
  unfold press Form.press
  rcases h.cases_focused with ⟨s, v, hs, hv, hd⟩ | ⟨hs, hv, hd⟩
  · rw [hs, hv, hd]
    dsimp only
    cases Field.press ⟨s, v⟩ k with
    | handled v => exact congrArg (·, Form.Outcome.handled) (form_setValue f _ _)
    | openEditor language => rfl
    | ignored => rfl
  · rw [hs, hv, hd]

theorem InStep.form_complete? (h : f.InStep) (names : List String) :
    (f.complete? names).map form = f.form.complete? names := by
  unfold complete? Form.complete?
  rw [h.focusedLabels?_form]
  cases f.focusedLabels? with
  | none => rfl
  | some e =>
    dsimp only
    rw [Option.map_map]
    exact congrArg (Option.map · _) (funext fun e => form_setValue f _ _)

/-- The field at an index, with its value replaced where that is of the right sort. -/
theorem InStep.form_setStructuredAt (h : f.InStep) (index : Nat) (s : String) :
    (f.setStructuredAt index s).form = f.form.setStructuredAt index s := by
  unfold setStructuredAt Form.setStructuredAt
  rcases h.cases_at index with ⟨spec, v, -, hv, hd⟩ | ⟨-, hv, hd⟩
  · rw [hv, hd]
    cases v with
    | structured old => exact form_setValue f _ _
    | _ => rfl
  · rw [hv, hd]

theorem InStep.form_setText (h : f.InStep) (key s : String) : (f.setText key s).form = f.form.setText key s := by
  unfold setText Form.setText
  rw [h.index?_eq]
  cases f.form.fields.findIdx? (·.spec.key == key) with
  | none => rfl
  | some i =>
    dsimp only
    rcases h.cases_at i with ⟨spec, v, -, hv, hd⟩ | ⟨-, hv, hd⟩
    · rw [hv, hd]
      cases v with
      | text old => exact form_setValue f _ _
      | structured old => exact form_setValue f _ _
      | _ => rfl
    · rw [hv, hd]

/-- What is done to the two lists is done to the form. -/
theorem InStep.form_change (h : f.InStep) (c : FormChange) : (f.change c).form = f.form.change c := by
  cases c with
  | press k => exact congrArg Prod.fst (h.form_press k)
  | next => exact h.form_focusNext
  | previous => exact h.form_focusPrevious
  | setText key s => exact h.form_setText key s
  | setStructuredAt index s => exact h.form_setStructuredAt index s
  | complete names =>
    show ((f.complete? names).getD f).form = (f.form.complete? names).getD f.form
    rw [← h.form_complete?, Option.getD_map]

theorem form_changed (h : f.InStep) (cs : List FormChange) :
    (f.changed cs).InStep ∧ (f.changed cs).form = f.form.changed cs := by
  induction cs generalizing f with
  | nil => exact ⟨h, rfl⟩
  | cons c cs ih =>
    obtain ⟨hstep, hform⟩ := ih (h.change c)
    rw [h.form_change] at hform
    exact ⟨hstep, hform⟩

/-! ## What is read by key -/

theorem InStep.text_eq (h : f.InStep) (key : String) : f.text key = f.form.text key := by
  unfold text Form.text
  rw [h.value?_eq]
  cases f.form.find? key with
  | none => rfl
  | some d =>
    obtain ⟨spec, v⟩ := d
    cases v <;> rfl

theorem InStep.labels_eq (h : f.InStep) (key : String) : f.labels key = f.form.labels key := by
  unfold labels Form.labels
  rw [h.value?_eq]
  cases f.form.find? key with
  | none => rfl
  | some d =>
    obtain ⟨spec, v⟩ := d
    cases v <;> rfl

theorem InStep.choice_eq (h : f.InStep) (key : String) : f.choice key = f.form.choice key := by
  unfold choice Form.choice
  rw [h.value?_eq]
  cases f.form.find? key with
  | none => rfl
  | some d =>
    obtain ⟨spec, v⟩ := d
    cases v <;> rfl

theorem InStep.status_eq (h : f.InStep) : f.status = f.form.status := congrArg Status.ofIndex (h.choice_eq "status")

theorem InStep.priority_eq (h : f.InStep) : f.priority = f.form.priority :=
  congrArg (fun index => (Priority.all[index]?).getD default) (h.choice_eq "priority")

theorem InStep.structuredAt?_eq (h : f.InStep) (index : Nat) : f.structuredAt? index = f.form.structuredAt? index := by
  unfold structuredAt? Form.structuredAt?
  rcases h.cases_at index with ⟨s, v, -, hv, hd⟩ | ⟨-, hv, hd⟩
  · rw [hv, hd]
    cases v <;> rfl
  · rw [hv, hd]

/-- After any changes, what a payload is built from is the same in the lists and in the form. -/
theorem read_changed (h : f.InStep) (cs : List FormChange) :
    let g := f.changed cs
    let d := f.form.changed cs
    (∀ key, g.text key = d.text key ∧ g.labels key = d.labels key) ∧
      (∀ index, g.structuredAt? index = d.structuredAt? index) ∧ g.status = d.status ∧ g.priority = d.priority := by
  intro g d
  obtain ⟨hstep, hform⟩ := form_changed h cs
  change g.InStep at hstep
  have hd : d = g.form := hform.symm
  rw [hd]
  exact ⟨fun key => ⟨hstep.text_eq key, hstep.labels_eq key⟩, hstep.structuredAt?_eq, hstep.status_eq,
    hstep.priority_eq⟩

/-- Whatever is done to a form over one of the tables, the table stays, with one value for each of its lines, of the
sort that the line calls for; the index of a choice is that of an option, so that the state and the priority that the
form gives are the options shown; a field is in focus where there is one; and a key changes no other value and leaves
the focus where it is. -/
theorem sound_after (htable : table ∈ formTables) (hnew : f.New table) (cs : List FormChange) :
    let g := f.changed cs
    g.specs = table ∧ g.values.length = table.length ∧
    (∀ (i : Nat) (spec : FieldSpec) (v : FieldValue), g.specs[i]? = some spec → g.values[i]? = some v →
      v.Suits spec.kind ∧ (∀ options index, v = .choice options index → index < options.length) ∧
      (spec.key = "status" → v.option? = some g.status.name) ∧
      (spec.key = "priority" → v.option? = some g.priority.name)) ∧
    (0 < g.specs.length → g.focus < g.specs.length) ∧
    ∀ k, (g.press k).1.specs = g.specs ∧ (g.press k).1.focus = g.focus ∧
      ∀ i, i ≠ g.focus → (g.press k).1.values[i]? = g.values[i]? := by
  intro g
  obtain ⟨hstep, hform⟩ := form_changed hnew.inStep cs
  change g.InStep at hstep
  have hsound := Form.sound_changed htable hnew.new_form cs
  rw [← hform] at hsound
  obtain ⟨hspecs, hsuits, hoptions, hstatus, hpriority, hfocus⟩ := hsound
  rw [hstep.map_spec_form] at hspecs
  rw [hstep.length_form] at hfocus
  refine ⟨hspecs, hstep.trans (congrArg List.length hspecs), fun i spec v hspec hv => ?_, hfocus, fun k =>
    ⟨(sameShape_press g k).specs, press_frame g k⟩⟩
  have hd : ⟨spec, v⟩ ∈ g.form.fields := by
    apply List.mem_of_getElem? (i := i)
    rw [getElem?_form_fields, hspec, hv]
    rfl
  rw [hstep.status_eq, hstep.priority_eq]
  exact ⟨hsuits _ hd, hoptions _ hd, hstatus _ hd, hpriority _ hd⟩

/-- From the field of the priority one step on and then to the state and one step back, which goes round. -/
def restyling : List FormChange := [.next, .next, .press .right, .next, .press .left, .setText "title" "Paint the door"]

/-- The job whose priority is no known one starts at the default, and is archived. -/
theorem sound_after_restyling :
    let f := seeded Kind.jobs.formFields .paintJob
    let g := f.changed restyling
    Kind.jobs.formFields ∈ formTables ∧ f.New Kind.jobs.formFields ∧ g.focus = 3 ∧
      g.priority = .high ∧ g.status = .active ∧ g.text "title" = "Paint the door" ∧
      ∀ v, g.values[2]? = some v → v.option? = some "high" := by
  intro f g
  have htable : Kind.jobs.formFields ∈ formTables := by decide
  have hnew : f.New Kind.jobs.formFields := .seeded .paintJob
  have hpriority : g.priority = .high := by decide +kernel
  obtain ⟨hspecs, -, hvalues, -, -⟩ := sound_after htable hnew restyling
  refine ⟨htable, hnew, by decide +kernel, hpriority, by decide +kernel, by decide +kernel, fun v hv => ?_⟩
  obtain ⟨-, -, -, hshown⟩ := hvalues 2 _ v (congrArg (·[2]?) hspecs) hv
  rw [hshown rfl, hpriority]
  rfl

end FormState

end RecordDesk
