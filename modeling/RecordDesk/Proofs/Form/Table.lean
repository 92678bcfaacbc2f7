import RecordDesk.Profile

/-!
What the keys leave alone in a form. Whatever is typed, a form has the fields of its table in their order, one of
them is in focus, and text is staged in that one only, since moving the focus commits it (`Edit.fits`). So a field
can be found by its key as well as by its index (`Fits.find?_eq`), and from what a table says about its trees follows
in which language each of them is read (`Kind.eq_field_of_structured`).
-/

namespace RecordDesk

namespace Form

/-- What a key can do to an open form. -/
inductive Edit (f : Form) : Form → Prop where
  | stay : Edit f f
  | press (k : Key) : Edit f (f.press k).1
  | next : Edit f f.focusNext
  | previous : Edit f f.focusPrevious
  | complete {names : List String} {g : Form} (h : f.complete? names = some g) : Edit f g
  | retype (index : Nat) (s : String) : Edit f (f.setStructuredAt index s)

/-- No text is staged in any field. -/
def Settled (f : Form) : Prop :=
  ∀ (i : Nat) (spec : FieldSpec) (e : LabelEntry), f.fields[i]? = some ⟨spec, .labels e⟩ → e.staging = ""

/-- The form has the fields of a table, one of them is in focus, and text is staged in no other one. -/
structure Fits (table : List FieldSpec) (f : Form) : Prop where
  specs : f.fields.map Field.spec = table
  focus : f.focus < table.length
  staged : ∀ (i : Nat) (spec : FieldSpec) (e : LabelEntry), i ≠ f.focus →
    f.fields[i]? = some ⟨spec, .labels e⟩ → e.staging = ""

variable {specs : List FieldSpec} {f : Form}

theorem Fits.length (h : f.Fits specs) : f.fields.length = specs.length := by
  rw [← h.specs, List.length_map]

theorem Fits.mem (h : f.Fits specs) {index : Nat} {d : Field} (hd : f.fields[index]? = some d) : d.spec ∈ specs := by
  rw [← h.specs]
  exact List.mem_map_of_mem (List.mem_of_getElem? hd)

theorem Settled.fits (h : f.Settled) (hspecs : f.fields.map Field.spec = specs) (hfocus : f.focus < specs.length) :
    f.Fits specs := ⟨hspecs, hfocus, fun i spec e _ => h i spec e⟩

/-! ## New forms -/

theorem settled_blank (specs : List FieldSpec) : (blank specs).Settled := by
  intro i spec e hi
  simp only [blank, List.getElem?_map, Option.map_eq_some_iff, Field.mk.injEq] at hi
  obtain ⟨s, -, -, hvalue⟩ := hi
  cases hk : s.kind <;> rw [hk] at hvalue <;> cases hvalue <;> rfl

theorem settled_seeded (specs : List FieldSpec) (r : Record) : (seeded specs r).Settled := by
  intro i spec e hi
  simp only [seeded, List.getElem?_map, Option.map_eq_some_iff, Field.mk.injEq] at hi
  obtain ⟨s, -, -, hvalue⟩ := hi
  unfold seed at hvalue
  split at hvalue <;> cases hvalue <;> rfl

theorem fits_blank (h : 0 < specs.length) : (blank specs).Fits specs :=
  (settled_blank specs).fits (by simp [blank, Function.comp_def]) h

theorem fits_seeded (h : 0 < specs.length) (r : Record) : (seeded specs r).Fits specs :=
  (settled_seeded specs r).fits (by simp [seeded, Function.comp_def]) h

/-! ## Values -/

theorem getElem?_setValue_ne (f : Form) {i j : Nat} (h : i ≠ j) (v : FieldValue) :
    (f.setValue j v).fields[i]? = f.fields[i]? := List.getElem?_modify_ne _ _ h.symm

/-- A field that gets the value that it has stays as it is. -/
theorem setValue_own {index : Nat} {d : Field} (hd : f.fields[index]? = some d) : f.setValue index d.value = f := by
  obtain ⟨fields, focus⟩ := f
  simp only [setValue, mk.injEq, and_true]
  apply List.ext_getElem?
  intro i
  rw [List.getElem?_modify]
  by_cases hi : index = i
  · subst hi
    simp [show fields[index]? = some d from hd]
  · simp [hi]

theorem specs_setValue (f : Form) (index : Nat) (v : FieldValue) :
    (f.setValue index v).fields.map Field.spec = f.fields.map Field.spec := by
  apply List.ext_getElem?
  intro i
  by_cases hi : index = i
  · simp [setValue, hi, Function.comp_def]
  · simp [setValue, hi]

/-- Whatever is put into the field in focus. -/
theorem Fits.setValue (h : f.Fits specs) (v : FieldValue) : (f.setValue f.focus v).Fits specs where
  specs := (specs_setValue f f.focus v).trans h.specs
  focus := h.focus
  staged i spec e hi hd := by
    have hi : i ≠ f.focus := hi
    rw [getElem?_setValue_ne f hi] at hd
    exact h.staged i spec e hi hd

theorem focusedLabels?_eq_some {e : LabelEntry} (h : f.focusedLabels? = some e) :
    ∃ spec, f.fields[f.focus]? = some ⟨spec, .labels e⟩ := by
  unfold focusedLabels? focused? at h
  split at h
  · next spec e' hd =>
    cases h
    exact ⟨spec, hd⟩
  · cases h

theorem focusedLabels?_of_getElem? {spec : FieldSpec} {e : LabelEntry}
    (h : f.fields[f.focus]? = some ⟨spec, .labels e⟩) : f.focusedLabels? = some e := by
  unfold focusedLabels? focused?
  rw [h]

/-! ## The focus -/

theorem specs_commitFocused (f : Form) : f.commitFocused.fields.map Field.spec = f.fields.map Field.spec := by
  unfold commitFocused
  split
  · exact specs_setValue f _ _
  · rfl

/-- When the field in focus is committed, nothing is staged any more. -/
theorem Fits.settled_commitFocused (h : f.Fits specs) : f.commitFocused.Settled := by
  intro i spec e hd
  unfold commitFocused at hd
  by_cases hi : i = f.focus
  · subst hi
    split at hd
    · next e' he' =>
      obtain ⟨spec', hd'⟩ := focusedLabels?_eq_some he'
      simp only [Form.setValue, List.getElem?_modify_eq, hd', Option.map_eq_map, Option.map_some, Option.some.injEq,
        Field.mk.injEq, FieldValue.labels.injEq] at hd
      rw [← hd.2]
      rfl
    · next hnone =>
      rw [focusedLabels?_of_getElem? hd] at hnone
      cases hnone
  · split at hd
    · rw [getElem?_setValue_ne f hi] at hd
      exact h.staged i spec e hi hd
    · exact h.staged i spec e hi hd

theorem Fits.fields_ne_nil (h : f.Fits specs) : f.commitFocused.fields.isEmpty = false := by
  rw [List.isEmpty_eq_false_iff, ← List.length_pos_iff, ← List.length_map, specs_commitFocused, h.specs]
  exact Nat.zero_lt_of_lt h.focus

/-- Turning to the next field commits the one in focus and does nothing else. -/
theorem Fits.focusNext_eq (h : f.Fits specs) :
    f.focusNext = { f.commitFocused with focus := (f.focus + 1) % specs.length } := by
  have hlength : f.commitFocused.fields.length = specs.length := by
    rw [← List.length_map, specs_commitFocused, h.specs]
  have hfocus : f.commitFocused.focus = f.focus := by
    unfold commitFocused
    split
    · rfl
    · rfl
  unfold focusNext
  simp only [h.fields_ne_nil, Bool.false_eq_true, if_false, hlength, hfocus]

theorem Fits.settled_focusNext (h : f.Fits specs) : f.focusNext.Settled := by
  rw [h.focusNext_eq]
  exact h.settled_commitFocused

theorem Fits.focusNext (h : f.Fits specs) : f.focusNext.Fits specs := by
  refine h.settled_focusNext.fits ?_ ?_
  · rw [h.focusNext_eq]
    exact (specs_commitFocused f).trans h.specs
  · rw [h.focusNext_eq]
    exact Nat.mod_lt _ (Nat.zero_lt_of_lt h.focus)

theorem Fits.focusPrevious (h : f.Fits specs) : f.focusPrevious.Fits specs := by
  have hlength : f.commitFocused.fields.length = specs.length := by
    rw [← List.length_map, specs_commitFocused, h.specs]
  unfold Form.focusPrevious
  simp only [h.fields_ne_nil, Bool.false_eq_true, if_false, hlength]
  exact Settled.fits h.settled_commitFocused ((specs_commitFocused f).trans h.specs)
    (Nat.mod_lt _ (Nat.zero_lt_of_lt h.focus))

/-! ## Every key -/

theorem Fits.press (h : f.Fits specs) (k : Key) : (f.press k).1.Fits specs := by
  unfold Form.press
  split
  · exact h
  · split
    · exact h.setValue _
    · exact h
    · exact h

theorem Fits.setStructuredAt (h : f.Fits specs) (index : Nat) (s : String) :
    (f.setStructuredAt index s).Fits specs := by
  unfold Form.setStructuredAt
  split
  · next spec' old hd' =>
    refine ⟨(specs_setValue f index _).trans h.specs, h.focus, fun i spec e hi hd => ?_⟩
    by_cases hindex : i = index
    · -- A tree is no label entry.
      subst hindex
      simp [Form.setValue, hd'] at hd
    · rw [getElem?_setValue_ne f hindex] at hd
      exact h.staged i spec e hi hd
  · exact h

theorem Edit.fits {g : Form} (edit : f.Edit g) (h : f.Fits specs) : g.Fits specs := by
  cases edit with
  | stay => exact h
  | press k => exact h.press k
  | next => exact h.focusNext
  | previous => exact h.focusPrevious
  | @complete names g hcomplete =>
    unfold complete? at hcomplete
    split at hcomplete
    · obtain ⟨e, -, rfl⟩ := Option.map_eq_some_iff.1 hcomplete
      exact h.setValue _
    · cases hcomplete
  | retype index s => exact h.setStructuredAt index s

/-! ## Fields by their keys -/

/-- In a table that has no key twice, the key of a field finds that field. -/
theorem find?_of_mem (hspecs : f.fields.map Field.spec = specs) (hnodup : (specs.map FieldSpec.key).Nodup) {d : Field}
    (hd : d ∈ f.fields) : f.find? d.spec.key = some d := by
  obtain ⟨index, hlt, rfl⟩ := List.getElem_of_mem hd
  have hdistinct : f.fields.Pairwise fun a b => a.spec.key ≠ b.spec.key := by
    rw [← hspecs, List.map_map] at hnodup
    exact List.pairwise_map.1 hnodup
  refine List.find?_eq_some_iff_getElem.2 ⟨beq_self_eq_true _, index, hlt, rfl, fun j hj => ?_⟩
  rw [Bool.not_eq_true', beq_eq_false_iff_ne]
  exact List.pairwise_iff_getElem.1 hdistinct j index (Nat.lt_trans hj hlt) hlt hj

theorem Fits.find?_eq (h : f.Fits specs) (hnodup : (specs.map FieldSpec.key).Nodup) {index : Nat} {d : Field}
    (hd : f.fields[index]? = some d) : f.find? d.spec.key = some d :=
  find?_of_mem h.specs hnodup (List.mem_of_getElem? hd)

end Form

/-! ## The tables -/

/-- The field that shows a tree in a language. -/
def TreeLanguage.field : TreeLanguage → FieldSpec
  | .metadata => .metadata
  | .json => .properties

theorem Kind.nodup_formFields (k : Kind) : (k.formFields.map FieldSpec.key).Nodup := by
  cases k <;> decide

theorem nodup_relateFields : (relateFields.map FieldSpec.key).Nodup := by decide

/-- The language in which the forms of a kind show their tree. -/
def Kind.treeLanguage : Kind → TreeLanguage
  | .relationships => .json
  | _ => .metadata

theorem Kind.eq_field_of_structured (k : Kind) (language : TreeLanguage) :
    ∀ spec ∈ k.formFields, spec.kind = .structured language → language = k.treeLanguage ∧ spec = language.field := by
  cases k <;> cases language <;> decide

theorem eq_field_of_structured_relateFields (language : TreeLanguage) :
    ∀ spec ∈ relateFields, spec.kind = .structured language → language = .json ∧ spec = language.field := by
  cases language <;> decide

end RecordDesk
