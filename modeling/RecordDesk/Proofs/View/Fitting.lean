import RecordDesk.Proofs.ListWindow.WordSize
import RecordDesk.Proofs.Tab.Candidates
import RecordDesk.Proofs.Tab.OpenForm
import RecordDesk.Terminal
import RecordDesk.View.Screen

/-!
How many lines there are for a screen to show. Between a change of the viewport and the next one, both windows of a tab
keep the height that they have been given (`high_onward`), whatever the keys and the deliveries are. With the height
that a terminal gives them, a list has room for all of its lines, with the message below them. The picker has one line
more around its rows than a list; so when its rows fill its window, or the window has but one row, the message is cut
off (`lists_fit`).
-/

namespace RecordDesk

/-! ## The height of a window -/

namespace ListWindow

variable {w : ListWindow}

@[simp] theorem height_setItems (w : ListWindow) (ls : List String) : (w.setItems ls).height = w.height :=
  height_clamp _

@[simp] theorem height_setHeight (w : ListWindow) (height : Nat) : (w.setHeight height).height = max height 1 :=
  height_clamp _

@[simp] theorem height_up (w : ListWindow) : w.up.height = w.height := by
  unfold up
  split
  · rfl
  · rfl

@[simp] theorem height_down (w : ListWindow) : w.down.height = w.height := by
  unfold down
  split
  · rfl
  · rfl

/-- A list that is not empty shows at least one row. -/
theorem Framed.length_visible_pos (h : w.Framed) (hne : w.labels.isEmpty = false) : 0 < w.visible.length := by
  have hsize : 0 < w.size := List.length_pos_iff.2 (by simpa using hne)
  have hheight := h.height
  rw [h.length_visible]
  omega

theorem Framed.length_visible_of_isEmpty (h : w.Framed) (hempty : w.labels.isEmpty = true) : w.visible.length = 0 := by
  have hsize : w.size = 0 := by simpa [size] using hempty
  rw [h.length_visible, hsize, Nat.min_zero]

theorem Shows.length_visible {ls : List String} (h : w.Shows ls) : w.visible.length = min w.height ls.length := by
  rw [h.framed.length_visible, ← h.labels]
  rfl

end ListWindow

namespace Bench

/-- Both windows, that of the list and that of the picker, are `n` rows high. -/
structure High (x : Bench) (n : Nat) : Prop where
  list : x.list.height = n
  picker : x.picker.list.height = n

variable {x y : Bench} {n : Nat}

/-- No key changes the height of a window. -/
theorem Use.high (use : x.Use y) (h : x.High n) : y.High n := by
  cases use with
  | stay | turn | mark | prompt | aim => exact ⟨h.list, h.picker⟩
  | scroll moved =>
    rcases moved with rfl | rfl
    · exact ⟨(ListWindow.height_up _).trans h.list, h.picker⟩
    · exact ⟨(ListWindow.height_down _).trans h.list, h.picker⟩
  | refill => exact ⟨(ListWindow.height_setItems _ _).trans h.list, h.picker⟩
  | relate | ask | leave => exact ⟨h.list, (ListWindow.height_setItems _ _).trans h.picker⟩
  | scrollPicker moved =>
    rcases moved with rfl | rfl
    · exact ⟨h.list, (ListWindow.height_up _).trans h.picker⟩
    · exact ⟨h.list, (ListWindow.height_down _).trans h.picker⟩

/-- No delivery changes the height of a window. -/
theorem Told.high {d : Delivery} (told : x.Told d y) (h : x.High n) : y.High n := by
  cases told with
  | stay | bulk => exact ⟨h.list, h.picker⟩
  | rows => exact ⟨(ListWindow.height_setItems _ _).trans h.list, h.picker⟩
  | @candidates rs =>
    refine ⟨h.list, ?_⟩
    unfold Picker.answered
    split
    · exact (ListWindow.height_setItems _ _).trans h.picker
    · exact (ListWindow.height_setItems _ _).trans h.picker
  | saved => exact ⟨h.list, (ListWindow.height_setItems _ _).trans h.picker⟩

end Bench

namespace Tab

variable {t : Tab} {n : Nat}

/-! ## Runs in one viewport -/

theorem high_setViewport (t : Tab) (height : Nat) : (t.setViewport height).bench.High (max height 1) :=
  ⟨ListWindow.height_setHeight _ _, ListWindow.height_setHeight _ _⟩

/-- An event that is no change of the viewport, or one to the height that the windows have, keeps their height. -/
theorem high_handle (hcoherent : t.Coherent) (h : t.bench.High n) (hn : 1 ≤ n) {e : TabEvent}
    (same : ∀ m, e = .input (.viewport m) → m = n) : (t.handle e).1.bench.High n := by
  cases e with
  | deliver d => exact (told_deliver t d).high h
  | input i =>
    cases i with
    | activate => exact (bench_activate t).symm ▸ h
    | reload => exact h
    | viewport m =>
      have hmax := high_setViewport t m
      rw [same m rfl, Nat.max_eq_left hn] at hmax
      rw [same m rfl]
      exact hmax
    | press k => exact (hcoherent.use_press k).high h

theorem high_onward (hcoherent : t.Coherent) (h : t.bench.High n) (hn : 1 ≤ n) {es : List TabEvent}
    (same : ∀ m, .input (.viewport m) ∈ es → m = n) : (t.onward es).bench.High n := by
  induction es generalizing t with
  | nil => exact h
  | cons e es ih =>
    have hstep := high_handle hcoherent h hn (e := e) fun m he => same m (he ▸ List.mem_cons_self)
    exact ih (hcoherent.handle e) hstep fun m hm => same m (List.mem_cons_of_mem e hm)

/-- After the viewport has been set, and not been set otherwise since, the windows are as high as it is. -/
theorem high_after (kind : Kind) (before : List TabEvent) (hn : 1 ≤ n) {later : List TabEvent}
    (same : ∀ m, .input (.viewport m) ∈ later → m = n) :
    (after kind (before ++ .input (.viewport n) :: later)).bench.High n := by
  have hset := high_setViewport (after kind before) n
  rw [Nat.max_eq_left hn] at hset
  have hcoherent := (coherent_after kind before).handle (.input (.viewport n))
  rw [after_append]
  exact high_onward hcoherent hset hn same

/-! ## Counting lines -/

theorem length_render (t : Tab) (width : Nat) :
    (t.render width).length = 1 + t.viewLines.length + t.messageLines.length := by
  unfold render fullLines
  rw [List.length_map, List.length_cons, List.length_append]
  omega

theorem length_messageLines_le (t : Tab) : t.messageLines.length ≤ 1 := by
  unfold messageLines
  split <;> simp

theorem messageLines_eq_nil_iff : t.messageLines = [] ↔ t.error = none ∧ t.notice = none := by
  unfold messageLines
  split <;> simp_all

/-- Two lines and the rows, or a line that says that there are none. -/
theorem length_listLines (h : t.list.Framed) : t.listLines.length = 2 + max 1 t.list.visible.length := by
  unfold listLines
  cases hempty : t.list.labels.isEmpty with
  | true =>
    rw [h.length_visible_of_isEmpty hempty]
    rfl
  | false =>
    have hpos := h.length_visible_pos hempty
    simp only [Bool.false_eq_true, if_false, List.length_cons, List.length_mapIdx]
    omega

/-- The same with a hint below the rows, and with one line above them. -/
theorem length_pickerLines (h : t.picker.list.Framed) (prompt : String) :
    (t.pickerLines prompt).length = 2 + max 1 t.picker.list.visible.length := by
  unfold pickerLines
  simp only [List.length_append, List.length_mapIdx, List.length_cons, List.length_nil]
  cases hempty : t.picker.list.labels.isEmpty with
  | true =>
    rw [h.length_visible_of_isEmpty hempty]
    rfl
  | false =>
    have hpos := h.length_visible_pos hempty
    simp only [Bool.false_eq_true, if_false, List.length_nil]
    omega

end Tab

/-- An end of a relationship is being picked. -/
def View.isPick : View → Bool
  | .relate .source => true
  | .relate .target => true
  | _ => false

namespace Tab

variable {t : Tab} {n : Nat}

theorem length_viewLines_of_isList (h : t.bench.Tidy) (hv : t.view.isList = true) :
    t.viewLines.length = 2 + max 1 t.list.visible.length := by
  unfold viewLines
  rcases View.eq_of_isList hv with hview | hview
  · rw [hview]
    exact length_listLines h.list.framed
  · rw [hview]
    exact length_listLines h.list.framed

theorem length_viewLines_of_isPick (h : t.bench.Tidy) (hv : t.view.isPick = true) :
    t.viewLines.length = 3 + max 1 t.picker.list.visible.length := by
  have hpicker (prompt : String) : (t.pickerLines prompt).length = _ := length_pickerLines h.picker.framed prompt
  unfold viewLines
  cases hview : t.view with
  | relate step =>
    cases step with
    | source => simp only [relateLines, List.length_cons, hpicker]; omega
    | target => simp only [relateLines, List.length_cons, hpicker]; omega
    | details => simp [hview, View.isPick] at hv
  | _ => simp [hview, View.isPick] at hv

theorem length_visible_list (h : t.bench.Tidy) (high : t.bench.High n) :
    t.list.visible.length = min n t.rows.length := by
  have hshown := h.list.length_visible
  rwa [high.list, List.length_map] at hshown

theorem length_visible_picker (h : t.bench.Tidy) (high : t.bench.High n) :
    t.picker.list.visible.length = min n t.picker.candidates.length := by
  have hshown := h.picker.length_visible
  rwa [high.picker, List.length_map] at hshown

/-- A picker has four lines around its rows, and the message. -/
theorem length_render_of_isPick (h : t.bench.Tidy) (high : t.bench.High n) (hv : t.view.isPick = true) (width : Nat) :
    (t.render width).length = 4 + max 1 (min n t.picker.candidates.length) + t.messageLines.length := by
  rw [length_render, length_viewLines_of_isPick h hv, length_visible_picker h high]
  omega

/-- What does not fit of lines of which all but the message fit, is the message. -/
theorem mem_messageLines_of_mem_drop {width height : Nat} (h : 1 + t.viewLines.length ≤ height) {l : Line}
    (hl : l ∈ (t.render width).drop height) : l ∈ t.messageLines.map (·.cut width) := by
  have hsplit : t.render width =
      (t.header :: t.viewLines).map (·.cut width) ++ t.messageLines.map (·.cut width) := by
    rw [← List.map_append]
    rfl
  have hlength : ((t.header :: t.viewLines).map (·.cut width)).length ≤ height := by
    rw [List.length_map, List.length_cons]
    omega
  rw [hsplit, List.drop_append, List.drop_eq_nil_of_le hlength, List.nil_append] at hl
  exact List.mem_of_mem_drop hl

end Tab

/-! ## The rows of a screen -/

namespace Screen

/-- The body of a screen has a row for every line of the active tab. -/
def ShowsWhole (d : Desk) (width height : Nat) : Prop :=
  (d.activeTab.render width).map (lineRow width) <+: bodyRows d width height

theorem length_bodyRows (d : Desk) (width height : Nat) : (bodyRows d width height).length = height := by
  unfold bodyRows
  simp only [List.length_append, List.length_map, List.length_take, List.length_replicate]
  omega

theorem showsWhole_iff {d : Desk} {width height : Nat} :
    ShowsWhole d width height ↔ (d.activeTab.render width).length ≤ height := by
  constructor
  · intro h
    have hle := h.length_le
    rwa [List.length_map, length_bodyRows] at hle
  · intro h
    unfold ShowsWhole bodyRows
    rw [List.take_of_length_le h]
    exact List.prefix_append _ _

end Screen

namespace Tab

/-- In a terminal of at least 12 rows, as long as the viewport is the one that belongs to it: the lines of a list fit
into the body of the screen. Those of a picker do so if there is no message, or if there are fewer candidates than rows
for them and more than one such row; if they do not, only the message is cut off. -/
theorem lists_fit (kind : Kind) (before later : List TabEvent) {h : Nat} (tall : 12 ≤ h)
    (same : ∀ m, .input (.viewport m) ∈ later → m = Terminal.listRows h) (width : Nat) :
    let t := after kind (before ++ .input (.viewport (Terminal.listRows h)) :: later)
    (t.view.isList = true → (t.render width).length ≤ h - 7) ∧
      (t.view.isPick = true →
        ((t.render width).length ≤ h - 7 ↔
          t.error = none ∧ t.notice = none ∨ 12 < h ∧ t.picker.candidates.length < Terminal.listRows h) ∧
        (t.render width).length ≤ h - 6 ∧
        ∀ l ∈ (t.render width).drop (h - 7), l ∈ t.messageLines.map (·.cut width)) ∧
      ∀ d : Desk, d.activeTab = t → (Screen.ShowsWhole d width (h - 7) ↔ (t.render width).length ≤ h - 7) := by
  intro t
  have hrows : Terminal.listRows h = h - 11 := by
    unfold Terminal.listRows Terminal.chromeRows
    omega
  have hhigh : t.bench.High (h - 11) := by
    rw [← hrows]
    exact high_after kind before (by omega) same
  have htidy : t.bench.Tidy := tidy_after kind _
  have hmessage := length_messageLines_le t
  refine ⟨fun hv => ?_, fun hv => ⟨?_, ?_, fun l hl => ?_⟩, ?_⟩
  · rw [length_render, length_viewLines_of_isList htidy hv, length_visible_list htidy hhigh]
    omega
  · rw [length_render_of_isPick htidy hhigh hv, ← messageLines_eq_nil_iff, ← List.length_eq_zero_iff, hrows]
    omega
  · rw [length_render_of_isPick htidy hhigh hv]
    omega
  · refine mem_messageLines_of_mem_drop ?_ hl
    rw [length_viewLines_of_isPick htidy hv, length_visible_picker htidy hhigh]
    omega
  · rintro d hd
    rw [Screen.showsWhole_iff, hd]

/-- The picker is opened, two entities come, and the first of them is picked for both ends. -/
def pickingTwice : List TabEvent :=
  [.input .activate, .input (.press .up), .input (.press .enter),
    .deliver ⟨.relationships, .candidates, 1,
      .ok (.records [.named .entities "ent-1" "Alpha", .named .entities "ent-2" "Beta"])⟩,
    .input (.press .enter), .input (.press .enter)]

/-- On a screen of 14 rows there is one row more than candidates, and so the error about the second pick fits. -/
theorem lists_fit_pair :
    let t := after .relationships ([] ++ .input (.viewport (Terminal.listRows 14)) :: pickingTwice)
    t.error = some "pick a different target than the source" ∧ (t.render 80).length ≤ 7 := by
  have same : ∀ m, .input (.viewport m) ∈ pickingTwice → m = Terminal.listRows 14 := by
    intro m hm
    simp [pickingTwice] at hm
  have hfit := (lists_fit .relationships [] pickingTwice (by decide) same 80).2.1 (by decide +kernel)
  exact ⟨by decide +kernel, hfit.1.2 (.inr ⟨by decide, by decide +kernel⟩)⟩

/-- On a screen of 13 rows the error about the second pick has no row. -/
theorem picker_hides_error :
    (¬ ∀ (kind : Kind) (before later : List TabEvent) (h : Nat), 12 ≤ h →
        (∀ m, .input (.viewport m) ∈ later → m = Terminal.listRows h) → ∀ width,
          let t := after kind (before ++ .input (.viewport (Terminal.listRows h)) :: later)
          t.view.isPick = true → (t.render width).length ≤ h - 7) ∧
      let t := after .relationships (.input (.viewport (Terminal.listRows 13)) :: pickingTwice)
      t.view = .relate .target ∧ t.error = some "pick a different target than the source" ∧
        ((t.render 80).take 6).map Line.text =
          ["relations  0 shown  loading...", "relate: Alpha -> ?", "pick target: ", "  Alpha", "  Beta",
            "type to filter  enter pick  esc back"] ∧
        ((t.render 80).drop 6).map Line.text = ["error: pick a different target than the source"] := by
  refine ⟨fun hfit => ?_, by decide +kernel, by decide +kernel, by decide +kernel, by decide +kernel⟩
  have same : ∀ m, .input (.viewport m) ∈ pickingTwice → m = Terminal.listRows 13 := by
    intro m hm
    simp [pickingTwice] at hm
  have hlong := hfit .relationships [] pickingTwice 13 (by decide) same 80 (by decide +kernel)
  exact absurd hlong (by decide +kernel)

end Tab

end RecordDesk
