import RecordDesk.Proofs.Tab.BulkMarks
import RecordDesk.Proofs.Tab.OpenForm

/-!
What changes the marks on records. Two keys do, in the rows of the list and while nothing is searched for, and
so does the report on a bulk update. Every other event leaves the marks alone, also where it takes a marked
record out of the rows, and so do these keys wherever else they are typed: Space in a search, a prompt, a form or
an editor, Escape to leave any of them (`marks_handle`).

The changes in the course of a run are therefore a list (`markChanges`), and the marks are what it comes to.
-/

namespace RecordDesk

/-- A change to the marks. -/
inductive MarkChange where
  | toggle (id : String)
  | clear
  deriving DecidableEq

def MarkChange.apply (s : NameSet) : MarkChange → NameSet
  | .toggle id => s.toggle id
  | .clear => .empty

namespace Tab

/-- Keys land on the rows, and nothing is searched for. -/
def atRows (t : Tab) : Bool := t.view.isList && t.focus == .rows && t.search.isEmpty

/-- The change that a key stands for: Space is for the selected record, Escape for all marks. -/
def keyChange? (t : Tab) (k : Key) : Option MarkChange :=
  if t.atRows then
    match k with
    | .char ' ' => t.selected?.map fun r => .toggle r.id
    | .esc => some .clear
    | _ => none
  else none

/-- The change that an event stands for, if any. -/
def markChange? (t : Tab) : TabEvent → Option MarkChange
  | .input (.press k) => t.keyChange? k
  | .input _ => none
  | .deliver d => if (TabEvent.deliver d).reportsBulk then some .clear else none

/-- The changes that some events stand for, in their order. -/
def markChanges (t : Tab) : List TabEvent → List MarkChange
  | [] => []
  | e :: es => (t.markChange? e).toList ++ (t.handle e).1.markChanges es

/-! ## Keys in the list -/

theorem keyChange?_of_not_atRows {t : Tab} (h : t.atRows = false) (k : Key) : t.keyChange? k = none := by
  simp [keyChange?, h]

theorem keyChange?_of_ne {k : Key} (hspace : k ≠ .char ' ') (hesc : k ≠ .esc) (t : Tab) :
    t.keyChange? k = none := by
  unfold keyChange?
  split
  · split
    · exact absurd rfl hspace
    · exact absurd rfl hesc
    · rfl
  · rfl

theorem marks_pressRows_of_ne (t : Tab) {k : Key} (hspace : k ≠ .char ' ') (hesc : k ≠ .esc) :
    (t.pressRows k).1.marks = t.marks := by
  unfold pressRows
  split
  case h_1 =>
    split
    · rfl
    · rfl
  case h_2 => rfl
  case h_3 =>
    obtain ⟨_, _, _, _, h⟩ := openDetail_frame t
    rw [h]
  case h_4 =>
    split
    · rfl
    · rfl
  case h_5 =>
    split
    · rfl
    · rfl
  case h_6 =>
    obtain ⟨_, _, _, _, _, _, h⟩ := clearSearch_frame t
    rw [h]
  case h_7 => rfl
  case h_8 => rfl
  case h_9 =>
    obtain ⟨_, _, _, h⟩ := openBulkPrompt_frame t .tags
    rw [h]
  case h_10 =>
    obtain ⟨_, _, _, h⟩ := openBulkPrompt_frame t .scopes
    rw [h]
  case h_11 => exact absurd rfl hesc
  case h_12 => exact absurd rfl hspace
  case h_13 =>
    obtain ⟨_, _, _, _, _, _, h⟩ := typeSearch_frame t k
    rw [h]

/-- In a search Space is a letter of it and Escape ends it. -/
theorem marks_pressRows {t : Tab} (hv : t.view.isList = true) (hf : t.focus = .rows) (k : Key) :
    (t.pressRows k).1.marks = (t.keyChange? k).elim t.marks (MarkChange.apply t.marks) := by
  have hrows : t.atRows = t.search.isEmpty := by simp [atRows, hv, hf]
  by_cases hspace : k = .char ' '
  · subst hspace
    simp only [pressRows]
    split
    · next hsearch =>
      have hchange : t.keyChange? (.char ' ') = t.selected?.map fun r => .toggle r.id := by
        simp [keyChange?, hrows, hsearch]
      rw [hchange]
      cases t.selected? with
      | none => rfl
      | some r => rfl
    · next hsearch =>
      rw [keyChange?_of_not_atRows (by simp [hrows, hsearch])]
      obtain ⟨_, _, _, _, _, _, h⟩ := typeSearch_frame t (.char ' ')
      rw [h]
      rfl
  by_cases hesc : k = .esc
  · subst hesc
    simp only [pressRows]
    split
    · next hsearch => simp [keyChange?, hrows, hsearch, MarkChange.apply]
    · next hsearch =>
      rw [keyChange?_of_not_atRows (by simp [hrows, hsearch])]
      obtain ⟨_, _, _, _, _, _, h⟩ := clearSearch_frame t
      rw [h]
      rfl
  rw [keyChange?_of_ne hspace hesc]
  exact marks_pressRows_of_ne t hspace hesc

theorem marks_pressList {t : Tab} (hv : t.view.isList = true) (k : Key) :
    (t.pressList k).1.marks = (t.keyChange? k).elim t.marks (MarkChange.apply t.marks) := by
  unfold pressList
  split
  · next choice hf =>
    rw [keyChange?_of_not_atRows (by simp [atRows, hf])]
    obtain ⟨_, _, _, _, _, _, _, -, h⟩ := pressToggle_frame t choice k
    rw [h]
    rfl
  · next hf => exact marks_pressRows hv hf k

theorem Coherent.editors_of_isList {t : Tab} (h : t.Coherent) (hv : t.view.isList = true) : t.editors = [] :=
  h.editors_nil (h.form_none (View.eq_of_isList hv))

/-! ## Every event -/

/-- Outside the list no key does anything to the marks. -/
theorem marks_of_use {x y : Bench} (use : x.Use y) (hv : x.view.isList = false) : y.marks = x.marks := by
  cases use with
  | mark view => exact absurd (hv.symm.trans view) Bool.false_ne_true
  | stay | turn | scroll | refill | prompt | relate | ask | aim | scrollPicker | leave => rfl

theorem marks_press {t : Tab} (h : t.Coherent) (k : Key) :
    (t.press k).1.marks = (t.keyChange? k).elim t.marks (MarkChange.apply t.marks) := by
  cases hv : t.view.isList with
  | false =>
    rw [keyChange?_of_not_atRows (by simp [atRows, hv])]
    exact marks_of_use (h.use_press k) hv
  | true =>
    rw [press_of_list (h.editors_of_isList hv) hv]
    exact marks_pressList (t := { t with error := none, notice := none }) hv k

theorem marks_handle {t : Tab} (h : t.Coherent) (e : TabEvent) :
    (t.handle e).1.marks = (t.markChange? e).elim t.marks (MarkChange.apply t.marks) := by
  cases e with
  | deliver d =>
    change (t.deliver d).1.marks = _
    rw [marks_deliver, markChange?]
    split
    · rfl
    · rfl
  | input i =>
    cases i with
    | activate => exact congrArg Bench.marks (bench_activate t)
    | reload => rfl
    | viewport height => rfl
    | press k => exact marks_press h k

theorem marks_onward {t : Tab} (h : t.Coherent) (es : List TabEvent) :
    (t.onward es).marks = (t.markChanges es).foldl MarkChange.apply t.marks := by
  induction es generalizing t with
  | nil => rfl
  | cons e es ih =>
    have hrest := ih (h.handle e)
    have hstep := marks_handle h e
    change ((t.handle e).1.onward es).marks = _
    rw [hrest, hstep, markChanges, List.foldl_append]
    cases t.markChange? e with
    | none => rfl
    | some c => rfl

/-- In any state that a tab can come to: an event that stands for no change keeps the marks as they are; Space on
a record changes whether that one is marked, and no other; Escape and the report on a bulk update take all marks
away. So after any events the marks are what these changes, one after the other, make of them. -/
theorem marks_change_on_purpose (kind : Kind) (es : List TabEvent) :
    let t := after kind es
    (∀ e, match t.markChange? e with
      | none => (t.handle e).1.marks = t.marks
      | some (.toggle id) => ∀ x, x ∈ (t.handle e).1.marks ↔ (x ∈ t.marks ↔ x ≠ id)
      | some .clear => (t.handle e).1.marks = .empty) ∧
    ∀ fs, (t.onward fs).marks = (t.markChanges fs).foldl MarkChange.apply t.marks := by
  intro t
  have h : t.Coherent := coherent_after kind es
  constructor
  · intro e
    have hmarks := marks_handle h e
    cases hchange : t.markChange? e with
    | none =>
      rw [hchange] at hmarks
      exact hmarks
    | some c =>
      rw [hchange] at hmarks
      cases c with
      | clear => exact hmarks
      | toggle id =>
        intro x
        rw [hmarks]
        exact NameSet.mem_toggle
  · exact marks_onward h

/-- A job is marked, and a search that it does not match is typed and left again. -/
example :
    (new .jobs).markChanges [.deliver ⟨.jobs, .load, 0, .ok (.records [.named .jobs "job-1" "paint"])⟩,
      .input (.press (.char ' ')), .input (.press (.char 'z')), .input (.press (.char ' ')),
      .input (.press .esc)] = [.toggle "job-1"] := rfl

end Tab

end RecordDesk
