import RecordDesk.Proofs.Desk.Independence
import RecordDesk.Proofs.Tab.OpenEditor

/-!
Who has the keyboard. While the active tab has an editor open, the desk keeps no key but the one to quit, and the
tab hands every other key to the editor: whatever is typed, the desk is as before with another text in that
editor, until Escape puts the text where it belongs (`editor_owns_keyboard`).
-/

namespace RecordDesk

theorem Kind.next_ne (kind : Kind) : kind.next ≠ kind := by cases kind <;> decide

theorem Kind.previous_ne (kind : Kind) : kind.previous ≠ kind := by cases kind <;> decide

namespace Desk

variable {d : Desk}

/-! ## One tab replaced -/

theorem setTab_activeTab (d : Desk) : d.setTab d.active d.activeTab = d := by
  simp [setTab, activeTab, tab]

theorem setTab_setTab (d : Desk) (kind : Kind) (t u : Tab) : (d.setTab kind t).setTab kind u = d.setTab kind u := by
  simp [setTab]

theorem activeTab_setTab (d : Desk) (t : Tab) : (d.setTab d.active t).activeTab = t := by
  show (d.setTab d.active t).tab d.active = t
  rw [tab_setTab, if_pos rfl]

/-! ## Keys to an open editor -/

theorem order?_of_modal (h : d.activeTab.isModal = true) {k : Key} (hk : k ≠ .ctrl 'q') : d.order? k = none := by
  unfold order?
  split
  · exact absurd rfl hk
  · exact if_pos h
  · exact if_pos h
  · rfl

theorem press_of_modal (h : d.activeTab.isModal = true) {k : Key} (hk : k ≠ .ctrl 'q') :
    d.press k = d.stepTab d.active (d.activeTab.press k) := by
  unfold press
  rw [order?_of_modal h hk]

theorem isModal_of_editors {t : Tab} (he : t.editors ≠ []) : t.isModal = true := by
  simp [Tab.isModal, he]

theorem press_of_editor {e : Editor} (he : d.activeTab.editors = [e]) {k : Key} (hesc : k ≠ .esc)
    (hquit : k ≠ .ctrl 'q') :
    d.press k = ⟨d.setTab d.active { d.activeTab with editors := [e.press k] }, [], []⟩ := by
  rw [press_of_modal (isModal_of_editors (by simp [he])) hquit, Tab.press_of_editor he hesc]
  rfl

theorem press_esc_of_editor {e : Editor} (he : d.activeTab.editors = [e]) :
    d.press .esc = ⟨d.setTab d.active { d.activeTab with
      editors := [], form := d.activeTab.form.map (·.setStructuredAt e.field e.buffer) }, [], []⟩ := by
  rw [press_of_modal (isModal_of_editors (by simp [he])) (by decide), Tab.press_esc_of_editor he]
  rfl

/-- However many keys are typed, they go to the editor and to nothing else. -/
theorem run_of_editor {e : Editor} (he : d.activeTab.editors = [e]) {ks : List Key}
    (h : ∀ k ∈ ks, k ≠ .esc ∧ k ≠ .ctrl 'q') :
    d.run (ks.map .press) = d.setTab d.active { d.activeTab with editors := [ks.foldl Editor.press e] } ∧
      d.issued (ks.map .press) = [] := by
  induction ks generalizing d e with
  | nil =>
    have hsame : ({ d.activeTab with editors := [e] } : Tab) = d.activeTab := by rw [← he]
    constructor
    · show d = d.setTab d.active { d.activeTab with editors := [e] }
      rw [hsame, setTab_activeTab]
    · rfl
  | cons k ks ih =>
    obtain ⟨hesc, hquit⟩ := h k List.mem_cons_self
    have hstep := press_of_editor he hesc hquit
    have heditors : (d.press k).desk.activeTab.editors = [e.press k] := by
      rw [hstep]
      exact congrArg Tab.editors (activeTab_setTab d _)
    obtain ⟨hrun, hissued⟩ := ih heditors fun k' hk' => h k' (List.mem_cons_of_mem k hk')
    constructor
    · show (d.press k).desk.run (ks.map .press) = _
      rw [hrun, hstep]
      show (d.setTab d.active _).setTab d.active _ = _
      rw [setTab_setTab, activeTab_setTab]
      rfl
    · show (d.press k).commands ++ (d.press k).desk.issued (ks.map .press) = []
      rw [hissued, hstep]
      rfl

/-! ## Opening an editor -/

theorem tab_showTab_of_ne {kind own : Kind} (h : own ≠ kind) : (d.showTab own).desk.tab kind = d.tab kind := by
  unfold showTab start stepTab
  dsimp only
  rw [tab_setTab, if_neg h]
  rfl

/-- An order that a key stands for leaves the tab alone that was active. -/
theorem tab_of_order {k : Key} {order : DeskOrder} (h : d.order? k = some order) :
    (d.dispatch order).desk.tab d.active = d.tab d.active := by
  unfold order? at h
  split at h
  · cases h
    rfl
  · split at h
    · cases h
    · cases h
      exact tab_showTab_of_ne (Kind.next_ne _)
  · split at h
    · cases h
    · cases h
      exact tab_showTab_of_ne (Kind.previous_ne _)
  · cases h

/-- So a key that opens an editor in it is one that it gets. -/
theorem press_of_opened (he : d.activeTab.editors = []) {k : Key}
    (hopen : ((d.press k).desk.tab d.active).editors ≠ []) :
    d.press k = d.stepTab d.active (d.activeTab.press k) := by
  unfold press at hopen ⊢
  cases horder : d.order? k with
  | none => rfl
  | some order =>
    rw [horder] at hopen
    dsimp only at hopen
    rw [tab_of_order horder] at hopen
    exact absurd he hopen

theorem press_esc_of_opened (h : d.activeTab.Coherent) (he : d.activeTab.editors = []) {k : Key}
    (hopen : ((d.press k).desk.tab d.active).editors ≠ []) :
    (d.press k).desk.press .esc =
      ⟨d.setTab d.active { d.activeTab with error := none, notice := none }, [], []⟩ := by
  have htab : (d.setTab d.active (d.activeTab.press k).1).activeTab = (d.activeTab.press k).1 :=
    activeTab_setTab d _
  have hstep := press_of_opened he hopen
  rw [hstep] at hopen ⊢
  change (d.setTab d.active (d.activeTab.press k).1).activeTab.editors ≠ [] at hopen
  show (d.setTab d.active (d.activeTab.press k).1).press .esc = _
  rw [press_of_modal (isModal_of_editors hopen) (by decide), htab, Tab.press_esc_of_opened h he (htab ▸ hopen)]
  show (⟨(d.setTab d.active _).setTab d.active _, [], []⟩ : DeskStep) = _
  rw [setTab_setTab]

/-! ## Runs -/

theorem tab_run_new (active : Kind) (is : List DeskInput) (kind : Kind) :
    ((new active).run is).tab kind = Tab.after kind ((new active).shares kind is) := by
  have hnew : (new active).tab kind = Tab.new kind := PerKind.get_ofFn Tab.new kind
  rw [tab_run (placed_new active), hnew]
  rfl

/-- In any state that a desk can come to. If the active tab has an editor open, then the form is as it was when the
editor was opened, on the field in focus; any keys but Escape and the one to quit issue nothing and leave the desk
as it is but for the text of the editor; and Escape then closes the editor, puts that text into its field, a tree,
issues nothing and leaves the desk as it is in all else. If the active tab has none open, and a key opens one in
it, then Escape right after leaves the desk as it was, without the messages that the key has dropped. -/
theorem editor_owns_keyboard (active : Kind) (is : List DeskInput) :
    let d := (new active).run is
    let t := d.activeTab
    (∀ e, t.editor? = some e → ∃ f, t.form = some f ∧ f.focus = e.field ∧
      Tab.OpenedOn d.active ((new active).shares d.active is) f e.language ∧
      ∀ ks : List Key, (∀ k ∈ ks, k ≠ .esc ∧ k ≠ .ctrl 'q') →
        let s := e.bufferAfter ks
        let typed := d.setTab d.active { t with editors := [{ e with buffer := s }] }
        d.run (ks.map .press) = typed ∧ d.issued (ks.map .press) = [] ∧
          ∃ g, f.Retyped e.field e.language s g ∧
            typed.press .esc = ⟨d.setTab d.active { t with editors := [], form := some g }, [], []⟩) ∧
    ∀ k, t.editor? = none → ((d.press k).desk.tab d.active).editor? ≠ none →
      (d.press k).desk.press .esc = ⟨d.setTab d.active { t with error := none, notice := none }, [], []⟩ := by
  intro d t
  have ht : t = Tab.after d.active ((new active).shares d.active is) := tab_run_new active is d.active
  constructor
  · intro e he
    rw [ht] at he
    obtain ⟨heditors, f, hopened, hf, hfocus, htree⟩ := Tab.form_of_editor d.active _ he
    rw [← ht] at heditors hf
    refine ⟨f, hf, hfocus, hopened, fun ks hks => ?_⟩
    intro s typed
    obtain ⟨hrun, hissued⟩ := run_of_editor heditors hks
    rw [e.foldl_press ks] at hrun
    refine ⟨hrun, hissued, _, htree.retyped s, ?_⟩
    have htyped : typed.activeTab = { t with editors := [{ e with buffer := s }] } := activeTab_setTab d _
    rw [press_esc_of_editor (e := { e with buffer := s }) (by rw [htyped]), htyped]
    show (⟨(d.setTab d.active _).setTab d.active { t with
      editors := [], form := t.form.map (·.setStructuredAt e.field s) }, [], []⟩ : DeskStep) = _
    rw [setTab_setTab, hf]
    rfl
  · intro k he hopen
    have hnone : t.editors = [] := List.head?_eq_none_iff.1 he
    have hcoherent : t.Coherent := ht ▸ Tab.coherent_after d.active _
    exact press_esc_of_opened hcoherent hnone fun h => hopen (List.head?_eq_none_iff.2 h)

/-- A job is edited, with the focus on its metadata. -/
def atMetadata : List DeskInput :=
  [.start, .deliver ⟨.jobs, .load, 1, .ok (.records [Tab.nightShift])⟩, .press .enter, .press (.char 'e'),
    .press .up]

/-- Behind the editor the keys to save and to turn to the next tab are two more that type nothing. -/
theorem editor_owns_keyboard_at_metadata :
    let closed := (new .jobs).run atMetadata
    let d := (new .jobs).run (atMetadata ++ [.press .enter])
    let ks : List Key := [.char 'k', .ctrl 's', .ctrl 'n', .enter, .tab]
    (∃ e f g, d.activeTab.editor? = some e ∧ d.activeTab.form = some f ∧
      (∀ k ∈ ks, k ≠ .esc ∧ k ≠ .ctrl 'q') ∧ d.issued (ks.map .press) = [] ∧
      f.Retyped e.field .metadata "k\n  " g ∧
      (d.run (ks.map .press)).press .esc =
        ⟨d.setTab .jobs { d.activeTab with editors := [], form := some g }, [], []⟩) ∧
    closed.activeTab.editor? = none ∧ ((closed.press .enter).desk.tab .jobs).editor? ≠ none ∧
      (closed.press .enter).desk.press .esc =
        ⟨closed.setTab .jobs { closed.activeTab with error := none, notice := none }, [], []⟩ := by
  intro closed d ks
  have hkeys : ∀ k ∈ ks, k ≠ .esc ∧ k ≠ .ctrl 'q' := by decide
  constructor
  · have hopen : d.activeTab.editor?.map (fun e => (e.language, e.bufferAfter ks)) = some (.metadata, "k\n  ") := by
      rfl
    obtain ⟨e, he, heq⟩ := Option.map_eq_some_iff.1 hopen
    obtain ⟨hlanguage, hbuffer⟩ := Prod.mk.inj heq
    have howns := (editor_owns_keyboard .jobs (atMetadata ++ [.press .enter])).1 e
    obtain ⟨f, hf, -, -, htyping⟩ := howns he
    obtain ⟨hrun, hissued, g, hretyped, hesc⟩ := htyping ks hkeys
    rw [hlanguage, hbuffer] at hretyped
    refine ⟨e, f, g, he, hf, hkeys, hissued, hretyped, ?_⟩
    rw [hrun]
    exact hesc
  · have hnone : closed.activeTab.editor? = none := by rfl
    have hopen : ((closed.press .enter).desk.tab .jobs).editor? ≠ none := nofun
    exact ⟨hnone, hopen, (editor_owns_keyboard .jobs atMetadata).2 .enter hnone hopen⟩

end Desk

end RecordDesk
