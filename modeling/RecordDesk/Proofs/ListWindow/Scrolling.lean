import Mathlib.Data.Nat.Dist
import RecordDesk.Proofs.ListWindow

/-!
How a list scrolls. A change settles what is selected, and after that the window moves no further than it
must: of all starts that the list allows, the new one is the nearest to the old one (`nearest_follow`). Going
up and down and jumping to a label leave the number of labels and the height alone, so they do not move a
window that still shows the selection. Other labels or another height may: a window that would reach below
the last label is drawn up to it.
-/

namespace RecordDesk.ListWindow

/-- What can be done to a list. -/
inductive Change where
  | fill (labels : List String)
  | resize (height : Nat)
  | select (index : Nat)
  | up
  | down

namespace Change

def apply (w : ListWindow) : Change → ListWindow
  | fill labels => w.setItems labels
  | resize height => w.setHeight height
  | select index => w.select index
  | up => w.up
  | down => w.down

/-- The index that is to be selected, as long as there are labels enough. -/
def target (w : ListWindow) : Change → Nat
  | fill _ => w.selection
  | resize _ => w.selection
  | select index => index
  | up => w.selection - 1
  | down => w.selection + 1

/-- Nothing but the selection is changed. -/
def isMove : Change → Bool
  | fill _ => false
  | resize _ => false
  | _ => true

end Change

/-- The list after some changes, from its beginning. -/
def after (height : Nat) (cs : List Change) : ListWindow := cs.foldl Change.apply (ofHeight height)

/-- A window with this start shows the selection, and has room below the last label only if it starts at the
first one. -/
def Allows (w : ListWindow) (start : Nat) : Prop :=
  start ≤ w.selection ∧ w.selection < start + w.height ∧ start ≤ w.size - w.height

/-- The number with a property that is nearest to `x`. -/
structure IsNearest (x : Nat) (p : Nat → Prop) (y : Nat) : Prop where
  holds : p y
  least : ∀ z, p z → z ≠ y → Nat.dist x y < Nat.dist x z

variable {w : ListWindow}

/-! ## Labels, height and selection -/

theorem Framed.apply (h : w.Framed) (c : Change) : (c.apply w).Framed := by
  cases c with
  | fill labels => exact h.setItems labels
  | resize height => exact framed_setHeight w height
  | select index => exact framed_clamp h.height
  | up => exact h.up
  | down => exact h.down

theorem framed_after (height : Nat) (cs : List Change) : (after height cs).Framed :=
  List.foldlRecOn cs _ (framed_ofHeight height) fun _ h c _ => h.apply c

@[simp] theorem size_follow (w : ListWindow) : w.follow.size = w.size := rfl

@[simp] theorem height_follow (w : ListWindow) : w.follow.height = w.height := rfl

@[simp] theorem selection_follow (w : ListWindow) : w.follow.selection = w.selection := rfl

/-- A list with labels brings its selection back among them before the window follows. -/
theorem clamp_of_ne_nil (h : w.labels ≠ []) :
    w.clamp =
      { w with selection := min w.selection (w.size - 1), start := min w.start w.maxStart }.follow := by
  unfold clamp
  rw [if_neg fun hempty => h (List.isEmpty_iff.1 hempty)]

/-- As long as there are labels, every change is to select its target, or the last label if there are too
few, and to let the window follow from where it was. -/
theorem Framed.apply_eq_follow (h : w.Framed) {c : Change} (hne : (c.apply w).labels ≠ []) :
    ∃ v : ListWindow, c.apply w = v.follow ∧ 0 < v.height ∧ 0 < v.size ∧
      v.selection = min (c.target w) (v.size - 1) ∧ v.start = min w.start v.maxStart ∧
      (c.isMove = true → v.size = w.size ∧ v.height = w.height) := by
  have hsize {v : ListWindow} (hv : v.labels ≠ []) : 0 < v.size := List.length_pos_iff.2 hv
  have hstart : w.start = min w.start w.maxStart := (Nat.min_eq_left h.full).symm
  cases c with
  | fill labels =>
    have hv : labels ≠ [] := by simpa [Change.apply] using hne
    exact ⟨_, clamp_of_ne_nil hv, h.height, hsize hv, rfl, rfl, fun hmove => nomatch hmove⟩
  | resize height =>
    have hv : w.labels ≠ [] := by simpa [Change.apply] using hne
    have hheight : 0 < max height 1 := by omega
    exact ⟨_, clamp_of_ne_nil (w := { w with height := max height 1 }) hv, hheight, hsize hv, rfl, rfl,
      fun hmove => nomatch hmove⟩
  | select index =>
    have hv : w.labels ≠ [] := by simpa [Change.apply, select] using hne
    exact ⟨_, clamp_of_ne_nil (w := { w with selection := index }) hv, h.height, hsize hv, rfl, rfl,
      fun _ => ⟨rfl, rfl⟩⟩
  | up =>
    have hv : w.labels ≠ [] := by simpa [Change.apply] using hne
    refine ⟨{ w with selection := w.selection - 1 }, ?_, h.height, hsize hv, ?_, hstart, fun _ => ⟨rfl, rfl⟩⟩
    · exact if_neg fun hempty => hv (List.isEmpty_iff.1 hempty)
    · have hselection := h.selection
      show w.selection - 1 = min (w.selection - 1) (w.size - 1)
      omega
  | down =>
    have hv : w.labels ≠ [] := by simpa [Change.apply] using hne
    refine ⟨{ w with selection := min (w.selection + 1) (w.size - 1) }, ?_, h.height, hsize hv, rfl, hstart,
      fun _ => ⟨rfl, rfl⟩⟩
    exact if_neg fun hempty => hv (List.isEmpty_iff.1 hempty)

/-! ## The nearest start -/

/-- Following brings the old start between the first and the last start that the list allows. The old start
`x` may lie too far down: what counts is that the window does not begin below the last start without room. -/
theorem start_follow {x : Nat} (height : 0 < w.height) (selection : w.selection < w.size)
    (start : w.start = min x w.maxStart) :
    w.follow.start = max (w.selection + 1 - w.height) (min x (min w.selection w.maxStart)) := by
  unfold maxStart at start
  unfold follow maxStart
  dsimp only
  split
  · omega
  · split <;> omega

theorem nearest_follow {x : Nat} (height : 0 < w.height) (selection : w.selection < w.size)
    (start : w.start = min x w.maxStart) : IsNearest x w.Allows w.follow.start := by
  rw [start_follow height selection start]
  unfold Allows maxStart
  constructor
  · omega
  · intro z hz hne
    unfold Nat.dist
    omega

/-- Every change selects its target, or the last label if there are too few, and moves the window to the
nearest start that the list then allows. So a window that shows the selection stays where it is, unless it
reaches below the last label, which going up and down and jumping to a label do not bring about; and going
up or down once moves it by one row at most. -/
theorem scrolls_minimally (height : Nat) (cs : List Change) (c : Change) :
    let w := after height cs
    let v := c.apply w
    v.labels ≠ [] →
      v.selection = min (c.target w) (v.size - 1) ∧
      IsNearest w.start v.Allows v.start ∧
      (w.start ≤ v.selection → v.selection < w.start + v.height →
        v.start = min w.start (v.size - v.height)) ∧
      (c.isMove = true → w.start ≤ v.selection → v.selection < w.start + w.height → v.start = w.start) ∧
      (c = .up ∨ c = .down → Nat.dist w.start v.start ≤ 1) := by
  intro w v hne
  have framed : w.Framed := framed_after height cs
  have hfull := framed.full
  obtain ⟨u, hu, uheight, usize, uselection, ustart, move⟩ := framed.apply_eq_follow hne
  have inside : u.selection < u.size := by omega
  have hstart := start_follow uheight inside ustart
  have nearest := nearest_follow uheight inside ustart
  unfold maxStart at hstart
  have hv : v = u.follow := hu
  rw [hv, size_follow, height_follow, selection_follow]
  refine ⟨uselection, nearest, fun above below => by omega, fun hmove above below => ?_, fun hstep => ?_⟩
  · obtain ⟨hsize, hheight⟩ := move hmove
    omega
  · -- One row up or down, the selection leaves the window by one row at most.
    have hin := framed.start
    have hshown := framed.shown
    have hselection := framed.selection
    unfold Nat.dist
    rcases hstep with rfl | rfl
    · obtain ⟨hsize, hheight⟩ := move rfl
      have htarget : u.selection = min (w.selection - 1) (u.size - 1) := uselection
      omega
    · obtain ⟨hsize, hheight⟩ := move rfl
      have htarget : u.selection = min (w.selection + 1) (u.size - 1) := uselection
      omega

/-- Two of five labels are in sight, the last one is selected, and then two labels are taken away. -/
theorem scrolls_minimally_shrunk :
    let w := after 2 [.fill ["a", "b", "c", "d", "e"], .select 4]
    let v := (Change.fill ["a", "b", "c"]).apply w
    v.labels ≠ [] ∧ w.start = 3 ∧ v.selection = min 4 2 ∧ v.start = 1 ∧ IsNearest 3 v.Allows 1 := by
  have h := scrolls_minimally 2 [.fill ["a", "b", "c", "d", "e"], .select 4] (.fill ["a", "b", "c"])
    (by decide)
  exact ⟨by decide, by decide, h.1, by decide, h.2.1⟩

/-- The last of five labels is selected in a window of two rows. With a third row the window would reach
below it, so the window moves, although the selection was and is in sight. -/
theorem window_moves_grown :
    let w := after 2 [.fill ["a", "b", "c", "d", "e"], .select 4]
    let v := (Change.resize 3).apply w
    w.start ≤ v.selection ∧ v.selection < w.start + w.height ∧ v.selection < w.start + v.height ∧
      v.start ≠ w.start := by decide

end RecordDesk.ListWindow
