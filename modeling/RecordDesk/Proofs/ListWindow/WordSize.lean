import RecordDesk.Proofs.ListWindow.Scrolling

/-!
A list in machine words. The same changes are carried out with sums and differences that fail when they
leave the range of a word (`Change.step?`), the drawing of the window too (`visible?`). No such failure
occurs, however large the height and the indices asked for (`after?_eq`): the window starts so that it ends
with the list, or it starts at the top. The main statement, `in_sight_after`, adds what the window shows.
-/

namespace RecordDesk

/-! ## Words -/

namespace Word

/-- A sum that may not pass the largest word. -/
def add? (limit a b : Nat) : Option Nat := if a + b ≤ limit then some (a + b) else none

/-- A difference that may not fall below zero. -/
def sub? (a b : Nat) : Option Nat := if b ≤ a then some (a - b) else none

theorem add?_eq {limit a b : Nat} (h : a + b ≤ limit) : add? limit a b = some (a + b) := if_pos h

theorem sub?_eq {a b : Nat} (h : b ≤ a) : sub? a b = some (a - b) := if_pos h

end Word

namespace ListWindow

/-- `follow` in machine words. -/
def follow? (limit : Nat) (w : ListWindow) : Option ListWindow :=
  let startAt (start : Nat) : ListWindow := { w with start := min start w.maxStart }
  if w.selection < w.start then some (startAt w.selection)
  else do
    let stop ← Word.add? limit w.start w.height
    if stop ≤ w.selection then
      let next ← Word.add? limit w.selection 1
      let start ← Word.sub? next w.height
      some (startAt start)
    else some (startAt w.start)

/-- `clamp` in machine words. -/
def clamp? (limit : Nat) (w : ListWindow) : Option ListWindow :=
  if w.labels.isEmpty then some { w with selection := 0, start := 0 }
  else do
    let last ← Word.sub? w.size 1
    follow? limit { w with selection := min w.selection last, start := min w.start w.maxStart }

/-- `visible` in machine words: the labels from the start to the end of the window or of the list. -/
def visible? (limit : Nat) (w : ListWindow) : Option (List String) := do
  let stop ← Word.add? limit w.start w.height
  let stop := min stop w.size
  some ((w.labels.take stop).drop (min w.start stop))

namespace Change

def step? (limit : Nat) (w : ListWindow) : Change → Option ListWindow
  | fill labels => clamp? limit { w with labels }
  | resize height => clamp? limit { w with height := max height 1 }
  | select index => clamp? limit { w with selection := index }
  -- One row up stops at the first label by itself.
  | up => if w.labels.isEmpty then some w else follow? limit { w with selection := w.selection - 1 }
  | down =>
    if w.labels.isEmpty then some w
    else do
      let next ← Word.add? limit w.selection 1
      let last ← Word.sub? w.size 1
      follow? limit { w with selection := min next last }

/-- What the change brings with it can be counted in a word. -/
def InWord (limit : Nat) : Change → Prop
  | fill labels => labels.length ≤ limit
  | resize height => height ≤ limit
  | select index => index ≤ limit
  | _ => True

instance (limit : Nat) : DecidablePred (InWord limit)
  | fill labels => inferInstanceAs (Decidable (labels.length ≤ limit))
  | resize height => inferInstanceAs (Decidable (height ≤ limit))
  | select index => inferInstanceAs (Decidable (index ≤ limit))
  | up => inferInstanceAs (Decidable True)
  | down => inferInstanceAs (Decidable True)

end Change

/-- The list after some changes, in machine words. -/
def after? (limit height : Nat) (cs : List Change) : Option ListWindow :=
  cs.foldlM (Change.step? limit) (ofHeight height)

/-- Labels and rows can be counted in a word. -/
structure InWord (limit : Nat) (w : ListWindow) : Prop where
  size : w.size ≤ limit
  height : w.height ≤ limit

variable {limit : Nat} {w : ListWindow}

/-! ## One change -/

/-- A window that ends with the list, or starts at the top, ends within a word. -/
theorem InWord.stop_le (h : w.InWord limit) (full : w.start ≤ w.size - w.height) :
    w.start + w.height ≤ limit := by
  have hsize := h.size
  have hheight := h.height
  omega

theorem follow?_eq (h : w.InWord limit) (selection : w.selection < w.size) (full : w.start ≤ w.maxStart) :
    follow? limit w = some w.follow := by
  have hnext : w.selection + 1 ≤ limit := Nat.le_trans selection h.size
  unfold follow? follow
  rw [Word.add?_eq (h.stop_le full), Word.add?_eq hnext]
  dsimp only [Option.bind_eq_bind, Option.bind_some]
  split
  · rfl
  · split
    · rw [Word.sub?_eq (by omega), Option.bind_some]
    · rfl

theorem clamp?_eq (h : w.InWord limit) : clamp? limit w = some w.clamp := by
  unfold clamp? clamp
  split
  · rfl
  · next hempty =>
    have hsize : 0 < w.size := List.length_pos_iff.2 fun hnil => hempty (List.isEmpty_iff.2 hnil)
    rw [Word.sub?_eq hsize]
    have hselection : min w.selection (w.size - 1) < w.size := by omega
    exact follow?_eq (w := { w with selection := _, start := _ }) ⟨h.size, h.height⟩ hselection
      (Nat.min_le_right _ _)

theorem step?_eq (hlimit : 0 < limit) (framed : w.Framed) (h : w.InWord limit) {c : Change}
    (hc : c.InWord limit) : c.step? limit w = some (c.apply w) := by
  cases c with
  | fill labels => exact clamp?_eq (w := { w with labels }) ⟨hc, h.height⟩
  | resize height =>
    have hheight : max height 1 ≤ limit := Nat.max_le.2 ⟨hc, hlimit⟩
    exact clamp?_eq (w := { w with height := max height 1 }) ⟨h.size, hheight⟩
  | select index => exact clamp?_eq (w := { w with selection := index }) ⟨h.size, h.height⟩
  | up =>
    show (if w.labels.isEmpty then _ else _) = some w.up
    unfold ListWindow.up
    split
    · rfl
    · next hempty =>
      have hsize : 0 < w.size := List.length_pos_iff.2 fun hnil => hempty (List.isEmpty_iff.2 hnil)
      have hselection : w.selection - 1 < w.size := by
        have := framed.selection
        omega
      exact follow?_eq (w := { w with selection := w.selection - 1 }) ⟨h.size, h.height⟩ hselection framed.full
  | down =>
    show (if w.labels.isEmpty then _ else _) = some w.down
    unfold ListWindow.down
    split
    · rfl
    · next hempty =>
      have hsize : 0 < w.size := List.length_pos_iff.2 fun hnil => hempty (List.isEmpty_iff.2 hnil)
      have hnext : w.selection + 1 ≤ limit := by
        have := framed.selection
        have := h.size
        omega
      have hselection : min (w.selection + 1) (w.size - 1) < w.size := by omega
      rw [Word.add?_eq hnext, Word.sub?_eq hsize]
      exact follow?_eq (w := { w with selection := min (w.selection + 1) (w.size - 1) }) ⟨h.size, h.height⟩
        hselection framed.full

@[simp] theorem height_clamp (w : ListWindow) : w.clamp.height = w.height := by
  unfold clamp
  split
  · rfl
  · rfl

theorem InWord.clamp (h : w.InWord limit) : w.clamp.InWord limit :=
  ⟨(congrArg List.length (labels_clamp w)).trans_le h.size, (height_clamp w).trans_le h.height⟩

theorem InWord.apply (hlimit : 0 < limit) (h : w.InWord limit) {c : Change} (hc : c.InWord limit) :
    (c.apply w).InWord limit := by
  cases c with
  | fill labels => exact InWord.clamp (w := { w with labels }) ⟨hc, h.height⟩
  | resize height =>
    have hheight : max height 1 ≤ limit := Nat.max_le.2 ⟨hc, hlimit⟩
    exact InWord.clamp (w := { w with height := max height 1 }) ⟨h.size, hheight⟩
  | select index => exact InWord.clamp (w := { w with selection := index }) ⟨h.size, h.height⟩
  | up =>
    show w.up.InWord limit
    unfold ListWindow.up
    split
    · exact h
    · exact ⟨h.size, h.height⟩
  | down =>
    show w.down.InWord limit
    unfold ListWindow.down
    split
    · exact h
    · exact ⟨h.size, h.height⟩

/-! ## All changes -/

theorem foldlM_step?_eq (hlimit : 0 < limit) (framed : w.Framed) (h : w.InWord limit) {cs : List Change}
    (hcs : ∀ c ∈ cs, c.InWord limit) :
    cs.foldlM (Change.step? limit) w = some (cs.foldl Change.apply w) := by
  induction cs generalizing w with
  | nil => rfl
  | cons c cs ih =>
    obtain ⟨hc, hcs⟩ := List.forall_mem_cons.1 hcs
    rw [List.foldlM_cons, step?_eq hlimit framed h hc, List.foldl_cons]
    exact ih (framed.apply c) (h.apply hlimit hc) hcs

theorem inWord_after (hlimit : 0 < limit) {height : Nat} (hheight : height ≤ limit) {cs : List Change}
    (hcs : ∀ c ∈ cs, c.InWord limit) : (after height cs).InWord limit := by
  have hnew : (ofHeight height).InWord limit := ⟨Nat.zero_le _, Nat.max_le.2 ⟨hheight, hlimit⟩⟩
  exact List.foldlRecOn cs _ hnew fun _ h c hmem => h.apply hlimit (hcs c hmem)

/-- No change leaves the range of a word. -/
theorem after?_eq (hlimit : 0 < limit) {height : Nat} (hheight : height ≤ limit) {cs : List Change}
    (hcs : ∀ c ∈ cs, c.InWord limit) : after? limit height cs = some (after height cs) :=
  foldlM_step?_eq hlimit (framed_ofHeight height)
    ⟨Nat.zero_le _, Nat.max_le.2 ⟨hheight, hlimit⟩⟩ hcs

/-! ## The window -/

theorem visible?_eq (h : w.InWord limit) (framed : w.Framed) : visible? limit w = some w.visible := by
  have hstart : w.start ≤ min (w.start + w.height) w.size := by
    have hfull := framed.full
    omega
  have hsize : w.labels.length = w.size := rfl
  unfold visible? visible
  rw [Word.add?_eq (h.stop_le framed.full)]
  dsimp only [Option.bind_eq_bind, Option.bind_some]
  rw [Nat.min_eq_left hstart, List.drop_take, Option.some.injEq, List.take_eq_take_iff, List.length_drop]
  omega

/-- Whatever is done to a list, in words of any size: nothing leaves their range, an empty list stands at the
top and shows nothing, and of any other list the window shows as many labels as it can, from its start on,
with the selected one among them. -/
theorem in_sight_after {limit : Nat} (hlimit : 0 < limit) {height : Nat} (hheight : height ≤ limit)
    {cs : List Change} (hcs : ∀ c ∈ cs, c.InWord limit) :
    let w := after height cs
    after? limit height cs = some w ∧ visible? limit w = some w.visible ∧ 1 ≤ w.height ∧
      (w.size = 0 → w.selected? = none ∧ w.start = 0 ∧ w.visible = []) ∧
      (0 < w.size → ∃ s label,
        w.selected? = some s ∧ s < w.size ∧
        w.start ≤ s ∧ s < w.start + w.height ∧ w.start ≤ max 0 (w.size - w.height) ∧
        w.visible = (w.labels.drop w.start).take (min w.height w.size) ∧
        w.visible.length = min w.height w.size ∧
        w.labels[s]? = some label ∧ w.visible[s - w.start]? = some label) := by
  intro w
  have framed : w.Framed := framed_after height cs
  have hwords : w.InWord limit := inWord_after hlimit hheight hcs
  refine ⟨after?_eq hlimit hheight hcs, visible?_eq hwords framed, framed.height, fun hempty => ?_,
    fun hsize => ?_⟩
  · have hlabels : w.labels = [] := List.length_eq_zero_iff.1 hempty
    have hselection := framed.selection
    have hstart := framed.start
    refine ⟨if_pos (List.isEmpty_iff.2 hlabels), by omega, ?_⟩
    rw [framed.visible_eq, hlabels, List.drop_nil, List.take_nil]
  · have hlabels : w.labels ≠ [] := List.length_pos_iff.1 hsize
    have hselection : w.selection < w.size := by
      have := framed.selection
      omega
    have hlabel : w.labels[w.selection]? = some w.labels[w.selection] := List.getElem?_eq_getElem hselection
    exact ⟨w.selection, _, if_neg fun hempty => hlabels (List.isEmpty_iff.1 hempty), hselection, framed.start,
      framed.shown, Nat.le_trans framed.full (Nat.le_max_right _ _), framed.visible_eq, framed.length_visible, hlabel,
      framed.getElem?_visible.trans hlabel⟩

/-- A list that shrinks under a selection asked for far below it, on a machine with 64-bit words. -/
def shrinkingList : List Change :=
  [.fill ["a", "b", "c"], .select (UInt64.size - 1), .fill ["a", "b"], .resize 0, .up]

/-- The window is as tall as it can be at first, and as low as it can be in the end. -/
theorem in_sight_shrinking :
    (0 < UInt64.size - 1 ∧ ∀ c ∈ shrinkingList, c.InWord (UInt64.size - 1)) ∧
      after (UInt64.size - 1) shrinkingList = ⟨["a", "b"], 0, 0, 1⟩ ∧
      after? (UInt64.size - 1) (UInt64.size - 1) shrinkingList = some ⟨["a", "b"], 0, 0, 1⟩ ∧
      visible? (UInt64.size - 1) ⟨["a", "b"], 0, 0, 1⟩ = some ["a"] := by
  have hlimit : 0 < UInt64.size - 1 := by decide
  have hcs : ∀ c ∈ shrinkingList, c.InWord (UInt64.size - 1) := by decide
  have hafter : after (UInt64.size - 1) shrinkingList = ⟨["a", "b"], 0, 0, 1⟩ := by decide
  have h := in_sight_after hlimit (Nat.le_refl (UInt64.size - 1)) hcs
  rw [hafter] at h
  exact ⟨⟨hlimit, hcs⟩, hafter, h.1, h.2.1⟩

end ListWindow

end RecordDesk
