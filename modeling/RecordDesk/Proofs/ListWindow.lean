import RecordDesk.ListWindow

/-!
The window of a list and the row selected in it. Every operation leaves them in a frame (`Framed`): the
selection is in the list and in the window, and the window reaches below the list only when it starts at
the top. In a frame, putting in the same labels again moves nothing (`Shows.setItems`), so a list
may be refreshed at any time.
-/

namespace RecordDesk.ListWindow

/-- Of an empty list this says that selection and window are at the top. -/
structure Framed (w : ListWindow) : Prop where
  height : 0 < w.height
  selection : w.selection ≤ w.size - 1
  start : w.start ≤ w.selection
  shown : w.selection < w.start + w.height
  full : w.start ≤ w.size - w.height

variable {w : ListWindow}

/-! ## Labels -/

@[simp] theorem labels_clamp (w : ListWindow) : w.clamp.labels = w.labels := by
  unfold clamp
  split
  · rfl
  · rfl

@[simp] theorem labels_setItems (w : ListWindow) (ls : List String) : (w.setItems ls).labels = ls :=
  labels_clamp _

@[simp] theorem labels_setHeight (w : ListWindow) (height : Nat) : (w.setHeight height).labels = w.labels :=
  labels_clamp _

@[simp] theorem labels_up (w : ListWindow) : w.up.labels = w.labels := by
  unfold up
  split
  · rfl
  · rfl

@[simp] theorem labels_down (w : ListWindow) : w.down.labels = w.labels := by
  unfold down
  split
  · rfl
  · rfl

/-! ## Every operation frames -/

/-- Following a selection in the list needs nothing of where the window was. -/
theorem framed_follow (height : 0 < w.height) (selection : w.selection ≤ w.size - 1) :
    w.follow.Framed := by
  have hsize : w.follow.size = w.size := rfl
  unfold follow at hsize ⊢
  constructor
  · exact height
  · rw [hsize]
    exact selection
  · dsimp only [maxStart]
    split
    · omega
    · split <;> omega
  · dsimp only [maxStart]
    split
    · omega
    · split <;> omega
  · rw [hsize]
    exact Nat.min_le_right _ _

theorem framed_clamp (height : 0 < w.height) : w.clamp.Framed := by
  unfold clamp
  split
  · next hempty =>
    have hsize : w.size = 0 := by simpa [size] using hempty
    exact ⟨height, Nat.zero_le _, Nat.le_refl _, by simpa using height, Nat.zero_le _⟩
  · exact framed_follow height (Nat.min_le_right _ _)

theorem framed_ofHeight (height : Nat) : (ofHeight height).Framed := by
  have h : 0 < max height 1 := by omega
  have shown : 0 < 0 + max height 1 := by omega
  exact ⟨h, Nat.le_refl _, Nat.le_refl _, shown, Nat.zero_le _⟩

theorem Framed.setItems (h : w.Framed) (ls : List String) : (w.setItems ls).Framed :=
  framed_clamp h.height

theorem framed_setHeight (w : ListWindow) (height : Nat) : (w.setHeight height).Framed :=
  framed_clamp (show 0 < max height 1 by omega)

theorem Framed.up (h : w.Framed) : w.up.Framed := by
  unfold ListWindow.up
  split
  · exact h
  · have hsel := h.selection
    exact framed_follow h.height (show w.selection - 1 ≤ w.size - 1 by omega)

theorem Framed.down (h : w.Framed) : w.down.Framed := by
  unfold ListWindow.down
  split
  · exact h
  · exact framed_follow h.height (Nat.min_le_right _ _)

/-! ## In a frame nothing moves -/

theorem Framed.follow_eq (h : w.Framed) : w.follow = w := by
  have hstart := h.start
  have hshown := h.shown
  have hfull := h.full
  unfold follow maxStart
  rw [if_neg (by omega), if_neg (by omega)]
  dsimp only
  rw [Nat.min_eq_left hfull]

theorem Framed.clamp_eq (h : w.Framed) : w.clamp = w := by
  have hselection := h.selection
  have hstart := h.start
  unfold clamp
  split
  · next hempty =>
    have hsize : w.size = 0 := by simpa [size] using hempty
    have hsel : w.selection = 0 := by omega
    have htop : w.start = 0 := by omega
    cases w
    simp only at hsel htop
    rw [hsel, htop]
  · unfold maxStart
    rw [Nat.min_eq_left hselection, Nat.min_eq_left h.full]
    exact h.follow_eq

/-! ## Labels in sight -/

/-- As many labels are in sight as there are rows, or all of them. -/
theorem Framed.visible_eq (framed : w.Framed) :
    w.visible = (w.labels.drop w.start).take (min w.height w.size) := by
  have hfull := framed.full
  have hsize : w.labels.length = w.size := rfl
  unfold visible
  rw [List.take_eq_take_iff, List.length_drop]
  omega

theorem Framed.length_visible (framed : w.Framed) : w.visible.length = min w.height w.size := by
  have hfull := framed.full
  have hsize : w.labels.length = w.size := rfl
  unfold visible
  rw [List.length_take, List.length_drop]
  omega

/-- The selected label is in the window, as far from its top as the selection is from the start. -/
theorem Framed.getElem?_visible (framed : w.Framed) :
    w.visible[w.selection - w.start]? = w.labels[w.selection]? := by
  have hstart := framed.start
  have hshown := framed.shown
  unfold visible
  rw [List.getElem?_take_of_lt (by omega), List.getElem?_drop, Nat.add_sub_cancel' hstart]

/-! ## What a list shows -/

/-- The list consists of these labels, and its selection is in sight. -/
structure Shows (w : ListWindow) (ls : List String) : Prop where
  labels : w.labels = ls
  framed : w.Framed

variable {ls : List String}

theorem Framed.shows_setItems (h : w.Framed) (ls : List String) : (w.setItems ls).Shows ls :=
  ⟨labels_setItems w ls, h.setItems ls⟩

theorem Shows.setHeight (h : w.Shows ls) (height : Nat) : (w.setHeight height).Shows ls :=
  ⟨(labels_setHeight w height).trans h.labels, framed_setHeight w height⟩

theorem Shows.up (h : w.Shows ls) : w.up.Shows ls := ⟨(labels_up w).trans h.labels, h.framed.up⟩

theorem Shows.down (h : w.Shows ls) : w.down.Shows ls := ⟨(labels_down w).trans h.labels, h.framed.down⟩

/-- The same labels, put in again, keep the selection and the window. -/
theorem Shows.setItems (h : w.Shows ls) : w.setItems ls = w := by
  rw [← h.labels]
  exact h.framed.clamp_eq

end RecordDesk.ListWindow
