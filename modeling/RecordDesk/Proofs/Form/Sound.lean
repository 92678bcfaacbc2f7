import RecordDesk.Proofs.Form.Focus

/-!
Forms that stay well-formed. A form keeps the fields of its table, in their order, each with a value of the sort that
its kind calls for (`FieldValue.Suits`), and its focus is one of them. That is `Form.Sound`; new forms have it and each
change keeps it (`Sound.change`), since a change only ever puts a suitable value into one field and counts the focus
round. So the state and the priority that are read from a form are the options that it shows (`sound_changed`).
-/

namespace RecordDesk

/-- A value is of the sort that a kind of field calls for: choices are among the kind's options, label entries hold the
kind's labels. -/
inductive FieldValue.Suits : FieldKind → FieldValue → Prop where
  | text (s : String) : Suits .text (.text s)
  | status {index : Nat} (h : index < statusOptions.length) : Suits .status (.choice statusOptions index)
  | priority {index : Nat} (h : index < priorityOptions.length) : Suits .priority (.choice priorityOptions index)
  | tags {e : LabelEntry} (h : e.kind = .tag) : Suits .tags (.labels e)
  | scopes {e : LabelEntry} (h : e.kind = .scope) : Suits .scopes (.labels e)
  | structured (language : TreeLanguage) (s : String) : Suits (.structured language) (.structured s)

def Field.Suits (d : Field) : Prop := d.value.Suits d.spec.kind

/-- The option that a choice shows. -/
def FieldValue.option? : FieldValue → Option String
  | .choice options index => options[index]?
  | _ => none

/-- The tables that forms are made of. -/
def formTables : List (List FieldSpec) := relateFields :: Kind.all.map Kind.formFields

/-- A change to a form. Completing takes the first of some names that continues what is staged. -/
inductive FormChange where
  | press (k : Key)
  | next
  | previous
  | setText (key s : String)
  | setStructuredAt (index : Nat) (s : String)
  | complete (names : List String)

namespace Form

def change (f : Form) : FormChange → Form
  | .press k => (f.press k).1
  | .next => f.focusNext
  | .previous => f.focusPrevious
  | .setText key s => f.setText key s
  | .setStructuredAt index s => f.setStructuredAt index s
  | .complete names => (f.complete? names).getD f

def changed (f : Form) (cs : List FormChange) : Form := cs.foldl change f

/-- A form that nothing has changed yet. -/
inductive New (table : List FieldSpec) : Form → Prop where
  | blank : New table (blank table)
  | seeded (r : Record) : New table (seeded table r)

/-- A form has the fields of a table in their order, each with a suitable value, and one of them is in focus. -/
structure Sound (table : List FieldSpec) (f : Form) : Prop where
  specs : f.fields.map Field.spec = table
  values : ∀ d ∈ f.fields, d.Suits
  focus : 0 < f.fields.length → f.focus < f.fields.length

end Form

/-! ## Values -/

theorem FieldValue.suits_blank (k : FieldKind) : (blank k).Suits k := by
  cases k with
  | text => exact .text _
  | status => exact .status (by decide)
  | priority => exact .priority (by decide)
  | tags => exact .tags rfl
  | scopes => exact .scopes rfl
  | structured language => exact .structured language _

theorem Status.index_lt (s : Status) : s.index < statusOptions.length := by cases s <;> decide

theorem Priority.index_lt (q : Priority) : q.index < priorityOptions.length := by cases q <;> decide

theorem Form.suits_seed (r : Record) (spec : FieldSpec) : (seed r spec).Suits spec.kind := by
  unfold seed
  cases spec.kind with
  | text => exact .text _
  | status => exact .status (Status.index_lt _)
  | priority => exact .priority (Priority.index_lt _)
  | tags => exact .tags rfl
  | scopes => exact .scopes rfl
  | structured language => cases language <;> exact .structured _ _

/-! ## Keys -/

theorem LabelEntry.kind_press {e e' : LabelEntry} {k : Key} (h : e.press k = some e') : e'.kind = e.kind := by
  unfold press at h
  split at h
  · cases h; rfl
  · cases h; rfl
  · cases h; rfl
  · split at h <;> cases h <;> rfl
  · cases h; rfl
  · obtain ⟨c, -, rfl⟩ := Option.map_eq_some_iff.1 h
    rfl

/-- Steps round the options stay among them. -/
theorem pressChoice_lt {options : List String} {index next : Nat} {k : Key}
    (h : pressChoice options index k = some next) (hindex : index < options.length) : next < options.length := by
  have hpos : 0 < options.length := Nat.zero_lt_of_lt hindex
  unfold pressChoice at h
  split at h
  · cases h; exact Nat.mod_lt _ hpos
  · cases h; exact Nat.mod_lt _ hpos
  · cases h; exact Nat.mod_lt _ hpos
  · cases h

theorem FieldEffect.ofValue_eq_handled {v : Option FieldValue} {w : FieldValue} (h : ofValue v = .handled w) :
    v = some w := by
  cases v with
  | none => cases h
  | some v => cases h; rfl

theorem Field.suits_press {d : Field} (hd : d.Suits) {k : Key} {v : FieldValue} (h : d.press k = .handled v) :
    v.Suits d.spec.kind := by
  obtain ⟨⟨key, label, kind, required⟩, value⟩ := d
  unfold Field.press at h
  cases hd with
  | text s =>
    obtain ⟨s', -, rfl⟩ := Option.map_eq_some_iff.1 (FieldEffect.ofValue_eq_handled h)
    exact .text s'
  | status hindex =>
    obtain ⟨next, hnext, rfl⟩ := Option.map_eq_some_iff.1 (FieldEffect.ofValue_eq_handled h)
    exact .status (pressChoice_lt hnext hindex)
  | priority hindex =>
    obtain ⟨next, hnext, rfl⟩ := Option.map_eq_some_iff.1 (FieldEffect.ofValue_eq_handled h)
    exact .priority (pressChoice_lt hnext hindex)
  | tags hkind =>
    obtain ⟨e', he', rfl⟩ := Option.map_eq_some_iff.1 (FieldEffect.ofValue_eq_handled h)
    exact .tags ((LabelEntry.kind_press he').trans hkind)
  | scopes hkind =>
    obtain ⟨e', he', rfl⟩ := Option.map_eq_some_iff.1 (FieldEffect.ofValue_eq_handled h)
    exact .scopes ((LabelEntry.kind_press he').trans hkind)
  | structured language s =>
    -- A tree is edited elsewhere; here no key changes it.
    dsimp only at h
    split at h <;> cases h

namespace Form

variable {table : List FieldSpec} {f : Form}

/-! ## Changes -/

theorem New.sound (h : f.New table) : f.Sound table := by
  cases h with
  | blank =>
    refine ⟨by simp [Form.blank, Function.comp_def], fun d hd => ?_, fun h => h⟩
    obtain ⟨spec, -, rfl⟩ := List.mem_map.1 hd
    exact FieldValue.suits_blank spec.kind
  | seeded r =>
    refine ⟨by simp [Form.seeded, Function.comp_def], fun d hd => ?_, fun h => h⟩
    obtain ⟨spec, -, rfl⟩ := List.mem_map.1 hd
    exact suits_seed r spec

/-- Putting a suitable value into a field. -/
theorem Sound.setValue (h : f.Sound table) {index : Nat} {d : Field} (hd : f.fields[index]? = some d) {v : FieldValue}
    (hv : v.Suits d.spec.kind) : (f.setValue index v).Sound table := by
  refine ⟨(specs_setValue f index v).trans h.specs, fun d' hd' => ?_, ?_⟩
  · obtain ⟨i, hi⟩ := List.mem_iff_getElem?.1 hd'
    by_cases hindex : i = index
    · subst hindex
      simp only [Form.setValue, List.getElem?_modify_eq, hd, Option.map_eq_map, Option.map_some,
        Option.some.injEq] at hi
      rw [← hi]
      exact hv
    · rw [getElem?_setValue_ne f hindex] at hi
      exact h.values d' (List.mem_of_getElem? hi)
  · rw [length_setValue]
    exact h.focus

theorem Sound.suits (h : f.Sound table) {index : Nat} {d : Field} (hd : f.fields[index]? = some d) : d.Suits :=
  h.values d (List.mem_of_getElem? hd)

/-- A label entry stays one of the same labels. -/
theorem Sound.setLabels (h : f.Sound table) {e e' : LabelEntry} (he : f.focusedLabels? = some e)
    (hkind : e'.kind = e.kind) : (f.setValue f.focus (.labels e')).Sound table := by
  obtain ⟨⟨key, label, kind, required⟩, hd⟩ := focusedLabels?_eq_some he
  refine h.setValue hd ?_
  cases h.suits hd with
  | tags htag => exact .tags (hkind.trans htag)
  | scopes hscope => exact .scopes (hkind.trans hscope)

theorem Sound.commitFocused (h : f.Sound table) : f.commitFocused.Sound table := by
  unfold Form.commitFocused
  split
  · next e he => exact h.setLabels he rfl
  · exact h

/-- The focus counts round the fields. -/
theorem Sound.setFocus (h : f.Sound table) {focus : Nat} :
    ({ f with focus := focus % f.fields.length } : Form).Sound table :=
  ⟨h.specs, h.values, fun hpos => Nat.mod_lt _ hpos⟩

theorem Sound.focusNext (h : f.Sound table) : f.focusNext.Sound table := by
  unfold Form.focusNext
  dsimp only
  split
  · exact h.commitFocused
  · exact h.commitFocused.setFocus

theorem Sound.focusPrevious (h : f.Sound table) : f.focusPrevious.Sound table := by
  unfold Form.focusPrevious
  dsimp only
  split
  · exact h.commitFocused
  · exact h.commitFocused.setFocus

theorem Sound.press (h : f.Sound table) (k : Key) : (f.press k).1.Sound table := by
  unfold Form.press
  split
  · exact h
  · next d hd =>
    split
    · next v hv => exact h.setValue hd (Field.suits_press (h.suits hd) hv)
    · exact h
    · exact h

theorem Sound.setStructuredAt (h : f.Sound table) (index : Nat) (s : String) :
    (f.setStructuredAt index s).Sound table := by
  unfold Form.setStructuredAt
  split
  · next spec old hd =>
    refine h.setValue hd ?_
    obtain ⟨key, label, kind, required⟩ := spec
    cases h.suits hd with
    | structured language => exact .structured language s
  · exact h

theorem Sound.setText (h : f.Sound table) (key s : String) : (f.setText key s).Sound table := by
  unfold Form.setText
  split
  · exact h
  · split
    · next spec old hd =>
      refine h.setValue hd ?_
      obtain ⟨key, label, kind, required⟩ := spec
      cases h.suits hd with
      | text => exact .text s
    · next spec old hd =>
      refine h.setValue hd ?_
      obtain ⟨key, label, kind, required⟩ := spec
      cases h.suits hd with
      | structured language => exact .structured language s
    · exact h

theorem Sound.complete (h : f.Sound table) (names : List String) : ((f.complete? names).getD f).Sound table := by
  unfold complete?
  split
  · next e he =>
    cases hc : e.complete? names with
    | none => exact h
    | some e' =>
      refine h.setLabels he ?_
      unfold LabelEntry.complete? at hc
      split at hc
      · cases hc
      · obtain ⟨c, -, rfl⟩ := Option.map_eq_some_iff.1 hc
        rfl
  · exact h

theorem Sound.change (h : f.Sound table) (c : FormChange) : (f.change c).Sound table := by
  cases c with
  | press k => exact h.press k
  | next => exact h.focusNext
  | previous => exact h.focusPrevious
  | setText key s => exact h.setText key s
  | setStructuredAt index s => exact h.setStructuredAt index s
  | complete names => exact h.complete names

theorem Sound.changed (h : f.Sound table) (cs : List FormChange) : (f.changed cs).Sound table := by
  induction cs generalizing f with
  | nil => exact h
  | cons c cs ih => exact ih (h.change c)

/-! ## What is read from a choice -/

theorem Sound.option?_status (h : f.Sound table) {d : Field} (hfind : f.find? "status" = some d)
    (hkind : d.spec.kind = .status) : d.value.option? = some f.status.name := by
  have hname : ∀ index < statusOptions.length, statusOptions[index]? = some (Status.ofIndex index).name := by decide
  obtain ⟨⟨key, label, kind, required⟩, value⟩ := d
  obtain rfl : kind = .status := hkind
  cases h.values _ (List.mem_of_find?_eq_some hfind) with
  | @status index hindex =>
    unfold Form.status choice
    rw [hfind]
    exact hname index hindex

theorem Sound.option?_priority (h : f.Sound table) {d : Field} (hfind : f.find? "priority" = some d)
    (hkind : d.spec.kind = .priority) : d.value.option? = some f.priority.name := by
  have hname : ∀ index < priorityOptions.length,
      priorityOptions[index]? = some ((Priority.all[index]?).getD default).name := by decide
  obtain ⟨⟨key, label, kind, required⟩, value⟩ := d
  obtain rfl : kind = .priority := hkind
  cases h.values _ (List.mem_of_find?_eq_some hfind) with
  | @priority index hindex =>
    unfold Form.priority choice
    rw [hfind]
    exact hname index hindex

end Form

theorem nodup_of_formTables : ∀ table ∈ formTables, (table.map FieldSpec.key).Nodup := by decide

/-- In every table the keys of the two choices stand for them. -/
theorem kind_of_formTables : ∀ table ∈ formTables, ∀ spec ∈ table,
    (spec.key = "status" → spec.kind = .status) ∧ (spec.key = "priority" → spec.kind = .priority) := by decide

namespace Form

variable {table : List FieldSpec} {f : Form}

/-- Whatever is done to a form over one of the tables, it has one field for each line of the table, in their order, with
a value of the sort that the line calls for; the index of a choice is that of an option, so that the state and the
priority that the form gives are the options shown; and a field is in focus where there is one. -/
theorem sound_changed (htable : table ∈ formTables) (hnew : f.New table) (cs : List FormChange) :
    let g := f.changed cs
    g.fields.map Field.spec = table ∧
    (∀ d ∈ g.fields, d.value.Suits d.spec.kind) ∧
    (∀ d ∈ g.fields, ∀ options index, d.value = .choice options index → index < options.length) ∧
    (∀ d ∈ g.fields, d.spec.key = "status" → d.value.option? = some g.status.name) ∧
    (∀ d ∈ g.fields, d.spec.key = "priority" → d.value.option? = some g.priority.name) ∧
    (0 < g.fields.length → g.focus < g.fields.length) := by
  intro g
  have hsound : g.Sound table := hnew.sound.changed cs
  have hfind : ∀ d ∈ g.fields, g.find? d.spec.key = some d := fun d hd =>
    find?_of_mem hsound.specs (nodup_of_formTables table htable) hd
  have hkinds : ∀ d ∈ g.fields,
      (d.spec.key = "status" → d.spec.kind = .status) ∧ (d.spec.key = "priority" → d.spec.kind = .priority) := by
    intro d hd
    apply kind_of_formTables table htable
    rw [← hsound.specs]
    exact List.mem_map_of_mem hd
  refine ⟨hsound.specs, hsound.values, ?_, ?_, ?_, hsound.focus⟩
  · intro d hd options index hvalue
    have hsuits := hsound.values d hd
    unfold Field.Suits at hsuits
    rw [hvalue] at hsuits
    generalize d.spec.kind = kind at hsuits
    cases hsuits with
    | status h => exact h
    | priority h => exact h
  · intro d hd hkey
    exact hsound.option?_status (hkey ▸ hfind d hd) ((hkinds d hd).1 hkey)
  · intro d hd hkey
    exact hsound.option?_priority (hkey ▸ hfind d hd) ((hkinds d hd).2 hkey)

end Form

end RecordDesk
