import RecordDesk.Proofs.Form.PlainFields
import RecordDesk.Proofs.Form.Table

/-!
Moving the focus about. A field that is left has what is staged in it committed, so that a move does change the form;
but saving counts what is staged among the labels as it is. So the form is looked at with everything committed and no
field in focus (`Form.finished`): no move changes that (`finished_turned`), and it is all that a payload is made of
(`Kind.buildPayload_finished`, `relatePayload_finished`).
-/

namespace RecordDesk

/-! ## Everything committed -/

/-- A label entry with what is staged committed; other values stay. -/
def FieldValue.finished : FieldValue → FieldValue
  | .labels e => .labels e.commit
  | v => v

def Field.finished (d : Field) : Field := { d with value := d.value.finished }

/-- The form as saving sees it: what is staged in any field is committed, and no field counts for its focus. -/
def Form.finished (f : Form) : Form := ⟨f.fields.map Field.finished, 0⟩

theorem LabelEntry.resolved_commit (e : LabelEntry) : e.commit.resolved = e.resolved :=
  resolved_of_no_staging e.kind e.resolved

theorem LabelEntry.commit_commit (e : LabelEntry) : e.commit.commit = e.commit := by
  have hresolved := resolved_commit e
  unfold commit at hresolved ⊢
  rw [hresolved]

namespace Form

variable {f g : Form} {table : List FieldSpec}

theorem find?_finished (f : Form) (key : String) : f.finished.find? key = (f.find? key).map Field.finished :=
  List.find?_map

theorem text_finished (f : Form) (key : String) : f.finished.text key = f.text key := by
  simp only [text, find?_finished]
  cases f.find? key with
  | none => rfl
  | some d =>
    obtain ⟨spec, v⟩ := d
    cases v <;> rfl

theorem choice_finished (f : Form) (key : String) : f.finished.choice key = f.choice key := by
  simp only [choice, find?_finished]
  cases f.find? key with
  | none => rfl
  | some d =>
    obtain ⟨spec, v⟩ := d
    cases v <;> rfl

theorem labels_finished (f : Form) (key : String) : f.finished.labels key = f.labels key := by
  simp only [labels, find?_finished]
  cases f.find? key with
  | none => rfl
  | some d =>
    obtain ⟨spec, v⟩ := d
    cases v with
    | labels e => exact congrArg NameSet.toList e.resolved_commit
    | text | choice | structured => rfl

theorem requiredText_finished (f : Form) (key : String) : f.finished.requiredText key = f.requiredText key := by
  simp only [requiredText, text_finished, find?_finished]
  cases f.find? key with
  | none => rfl
  | some d => rfl

theorem tree_finished (f : Form) (language : TreeLanguage) (key : String) :
    f.finished.tree language key = f.tree language key := by
  simp only [tree, text_finished]

theorem status_finished (f : Form) : f.finished.status = f.status := by
  simp only [status, choice_finished]

theorem priority_finished (f : Form) : f.finished.priority = f.priority := by
  simp only [priority, choice_finished]

end Form

theorem Kind.buildPayload_finished (k : Kind) (f : Form) (editing : Option Record) :
    k.buildPayload f.finished editing = k.buildPayload f editing := by
  cases k <;> simp only [buildPayload, Form.requiredText_finished, Form.tree_finished, Form.text_finished,
    Form.labels_finished, Form.status_finished, Form.priority_finished]

theorem relatePayload_finished (source target : Record) (f : Form) :
    relatePayload source target f.finished = relatePayload source target f := by
  simp only [relatePayload, Form.requiredText_finished, Form.tree_finished]

namespace Form

variable {f g : Form} {table : List FieldSpec}

/-! ## Moves -/

/-- The two ways to move the focus. -/
inductive Turn where
  | next
  | previous

def turn (f : Form) : Turn → Form
  | .next => f.focusNext
  | .previous => f.focusPrevious

def turned (f : Form) (ts : List Turn) : Form := ts.foldl turn f

/-- A value that is put in place of one that it cannot be told from in the end. -/
theorem finished_setValue {index : Nat} {d : Field} {v : FieldValue} (hd : f.fields[index]? = some d)
    (hv : v.finished = d.value.finished) : (f.setValue index v).finished = f.finished := by
  unfold finished setValue
  rw [mk.injEq]
  refine ⟨List.ext_getElem? fun i => ?_, rfl⟩
  rw [List.getElem?_map, List.getElem?_map]
  by_cases hi : index = i
  · subst hi
    rw [List.getElem?_modify_eq, hd]
    simp only [Option.map_eq_map, Option.map_some, Field.finished, hv]
  · rw [List.getElem?_modify_ne _ _ hi]

theorem finished_commitFocused (f : Form) : f.commitFocused.finished = f.finished := by
  unfold commitFocused
  split
  · next e he =>
    obtain ⟨spec, hd⟩ := focusedLabels?_eq_some he
    exact finished_setValue hd (congrArg FieldValue.labels e.commit_commit)
  · rfl

theorem finished_turn (f : Form) (t : Turn) : (f.turn t).finished = f.finished := by
  rw [← finished_commitFocused f]
  cases t with
  | next =>
    unfold turn focusNext
    dsimp only
    split
    · rfl
    · rfl
  | previous =>
    unfold turn focusPrevious
    dsimp only
    split
    · rfl
    · rfl

theorem finished_turned (f : Form) (ts : List Turn) : (f.turned ts).finished = f.finished := by
  induction ts generalizing f with
  | nil => rfl
  | cons t ts ih =>
    have hcons : f.turned (t :: ts) = (f.turn t).turned ts := rfl
    rw [hcons, ih, finished_turn]

/-! ## The place of the focus -/

theorem length_commitFocused (f : Form) : f.commitFocused.fields.length = f.fields.length := by
  rw [← List.length_map, specs_commitFocused, List.length_map]

theorem focus_commitFocused (f : Form) : f.commitFocused.focus = f.focus := by
  unfold commitFocused
  split
  · rfl
  · rfl

theorem focus_focusNext (f : Form) :
    f.focusNext.focus = if f.fields.length = 0 then f.focus else (f.focus + 1) % f.fields.length := by
  unfold focusNext
  simp only [List.isEmpty_iff_length_eq_zero, length_commitFocused, focus_commitFocused]
  split
  · exact focus_commitFocused f
  · rfl

theorem focus_focusPrevious (f : Form) :
    f.focusPrevious.focus =
      if f.fields.length = 0 then f.focus else (f.focus + f.fields.length - 1) % f.fields.length := by
  unfold focusPrevious
  simp only [List.isEmpty_iff_length_eq_zero, length_commitFocused, focus_commitFocused]
  split
  · exact focus_commitFocused f
  · rfl

theorem length_turn (f : Form) (t : Turn) : (f.turn t).fields.length = f.fields.length := by
  have hfinished := congrArg (fun g : Form => g.fields.length) (finished_turn f t)
  simpa only [finished, List.length_map] using hfinished

/-- One step round and one back. -/
theorem succ_mod_back {a n : Nat} (h : a < n) :
    ((a + 1) % n + n - 1) % n = a ∧ ((a + n - 1) % n + 1) % n = a := by
  constructor
  · rcases Nat.eq_or_lt_of_le (Nat.succ_le_of_lt h) with hlast | hlt
    · rw [show a + 1 = n from hlast, Nat.mod_self, Nat.mod_eq_of_lt (by omega)]
      omega
    · rw [Nat.mod_eq_of_lt hlt, show a + 1 + n - 1 = a + n by omega, Nat.add_mod_right, Nat.mod_eq_of_lt h]
  · cases a with
    | zero =>
      rw [Nat.zero_add, Nat.mod_eq_of_lt (Nat.sub_lt h Nat.one_pos), Nat.sub_add_cancel h, Nat.mod_self]
    | succ a =>
      rw [show a + 1 + n - 1 = a + n by omega, Nat.add_mod_right, Nat.mod_eq_of_lt (Nat.lt_of_succ_lt h),
        Nat.mod_eq_of_lt h]

theorem focus_back (h : f.fields.length = 0 ∨ f.focus < f.fields.length) :
    f.focusNext.focusPrevious.focus = f.focus ∧ f.focusPrevious.focusNext.focus = f.focus := by
  have hnext : f.focusNext.fields.length = f.fields.length := length_turn f .next
  have hprevious : f.focusPrevious.fields.length = f.fields.length := length_turn f .previous
  rw [focus_focusPrevious, focus_focusNext f.focusPrevious, focus_focusNext, focus_focusPrevious, hnext, hprevious]
  by_cases hempty : f.fields.length = 0
  · simp only [hempty, if_true, and_self]
  · simp only [hempty, if_false]
    exact succ_mod_back (h.resolve_left hempty)

/-! ## Forms that are reached -/

/-- The forms that come from a new one over a table by keys. -/
inductive Reached (table : List FieldSpec) : Form → Prop where
  | blank : Reached table (blank table)
  | seeded (r : Record) : Reached table (seeded table r)
  | edit {f g : Form} (h : Reached table f) (edit : f.Edit g) : Reached table g

theorem Reached.fits (h : f.Reached table) (hne : 0 < table.length) : f.Fits table := by
  induction h with
  | blank => exact fits_blank hne
  | seeded r => exact fits_seeded hne r
  | edit h edit ih => exact edit.fits ih

theorem length_setValue (f : Form) (index : Nat) (v : FieldValue) :
    (f.setValue index v).fields.length = f.fields.length := List.length_modify _ _ _

theorem Edit.length_eq (edit : f.Edit g) : g.fields.length = f.fields.length := by
  cases edit with
  | stay => rfl
  | press k =>
    unfold Form.press
    split
    · rfl
    · split
      · exact length_setValue f _ _
      · rfl
      · rfl
  | next => exact length_turn f .next
  | previous => exact length_turn f .previous
  | @complete names g hcomplete =>
    unfold complete? at hcomplete
    split at hcomplete
    · obtain ⟨e, -, rfl⟩ := Option.map_eq_some_iff.1 hcomplete
      exact length_setValue f _ _
    · cases hcomplete
  | retype index s =>
    unfold setStructuredAt
    split
    · exact length_setValue f _ _
    · rfl

theorem Reached.length_eq (h : f.Reached table) : f.fields.length = table.length := by
  induction h with
  | blank => exact List.length_map _
  | seeded r => exact List.length_map _
  | edit h edit ih => rw [edit.length_eq, ih]

theorem Reached.turned (h : f.Reached table) (ts : List Turn) : (f.turned ts).Reached table := by
  induction ts generalizing f with
  | nil => exact h
  | cons t ts ih =>
    cases t with
    | next => exact ih (h.edit .next)
    | previous => exact ih (h.edit .previous)

/-- Moving the focus about leaves the payload of a form as it is, whatever is staged, and the error as well where there
is none; and each of the two moves brings the focus back to where the other one took it from. -/
theorem turning_keeps_payload (h : f.Reached table) (ts : List Turn) :
    (∀ (k : Kind) (editing : Option Record), k.buildPayload (f.turned ts) editing = k.buildPayload f editing) ∧
    (∀ source target, relatePayload source target (f.turned ts) = relatePayload source target f) ∧
    f.focusNext.focusPrevious.focus = f.focus ∧ f.focusPrevious.focusNext.focus = f.focus := by
  refine ⟨fun k editing => ?_, fun source target => ?_, focus_back ?_⟩
  · rw [← Kind.buildPayload_finished, finished_turned, Kind.buildPayload_finished]
  · rw [← relatePayload_finished, finished_turned, relatePayload_finished]
  · rw [h.length_eq]
    rcases Nat.eq_zero_or_pos table.length with hempty | hne
    · exact .inl hempty
    · exact .inr (h.fits hne).focus

/-- The form of a job with a tag that is still being typed. -/
def taggingPaintJob : Form :=
  (((seeded Kind.jobs.formFields .paintJob).turned [.previous, .previous]).press (.char 'X')).1

/-- Three steps on, the tag is committed and another field in focus, and the payload is the same. -/
theorem turning_keeps_payload_taggingPaintJob :
    taggingPaintJob.Reached Kind.jobs.formFields ∧
      taggingPaintJob.focusedLabels?.map LabelEntry.staging = some "X" ∧
      (taggingPaintJob.turned [.next, .next, .next]).focus = 1 ∧
      (taggingPaintJob.turned [.next, .next, .next]).labels "tags" = ["AI ", "wall", "x"] ∧
      Kind.jobs.buildPayload (taggingPaintJob.turned [.next, .next, .next]) (some .paintJob) =
        Kind.jobs.buildPayload taggingPaintJob (some .paintJob) ∧
      taggingPaintJob.focusNext.focusPrevious.focus = 4 := by
  have hreached : taggingPaintJob.Reached Kind.jobs.formFields :=
    ((Reached.seeded .paintJob).turned [.previous, .previous]).edit (.press _)
  obtain ⟨hpayload, -, hback, -⟩ := turning_keeps_payload hreached [.next, .next, .next]
  have hfocus : taggingPaintJob.focus = 4 := by decide +kernel
  exact ⟨hreached, by decide +kernel, by decide +kernel, by decide +kernel, hpayload .jobs _, hback.trans hfocus⟩

end Form

end RecordDesk
