import RecordDesk.Proofs.Tab.OpenEditor

/-!
Escape leads home. It has a meaning of its own wherever keys land: it leaves an editor, a form, a question, a prompt,
an end that is being picked, a record, the choice above the rows, a search. How many of these a tab is inside of is
its depth, at most five in any state (`Coherent.depth_le`); each Escape leaves one of them (`depth_press_esc`), also
where it leads into another one, and at home it leaves the tab there (`atHome_pressed_esc_iff`).
-/

namespace RecordDesk

/-- How many views away from the list. -/
def View.depth : View → Nat
  | .list => 0
  | .search => 0
  | .detail => 1
  | .add => 1
  | .edit => 2
  | .confirm _ _ _ => 2
  | .bulkPrompt _ => 1
  | .relate .source => 1
  | .relate .target => 2
  | .relate .details => 3

theorem View.depth_le (v : View) : v.depth ≤ 3 := by
  cases v with
  | relate step => cases step <;> decide
  | _ => exact Nat.le_of_ble_eq_true rfl

theorem View.depth_of_isList {v : View} (h : v.isList = true) : v.depth = 0 := by
  rcases View.eq_of_isList h with rfl | rfl
  · rfl
  · rfl

namespace Tab

/-- How many things there are to leave. -/
def depth (t : Tab) : Nat :=
  t.editors.length + t.view.depth + (if t.focus = .rows then 0 else 1) + if t.search = "" then 0 else 1

/-- The list with nothing searched for, and keys land on its rows. -/
structure AtHome (t : Tab) : Prop where
  view : t.view = .list
  search : t.search = ""
  focus : t.focus = .rows
  form : t.form = none
  editors : t.editors = []

/-! ## Depth -/

theorem depth_listView (t : Tab) : t.listView.depth = 0 := by
  rcases listView_eq t with hview | hview
  · rw [hview]
    rfl
  · rw [hview]
    rfl

/-- An editor inside the form at the end of picking, over a search, is as deep as a tab goes. -/
theorem Coherent.depth_le {t : Tab} (h : t.Coherent) : t.depth ≤ 5 := by
  have heditors := h.consistent.editors
  have hview : t.view.depth + (if t.focus = .rows then 0 else 1) ≤ 3 := by
    by_cases hfocus : t.focus = .rows
    · rw [if_pos hfocus]
      exact t.view.depth_le
    · rcases h.consistent.focus hfocus with hlist | hsearch
      · rw [if_neg hfocus, hlist]
        decide
      · rw [if_neg hfocus, hsearch]
        decide
  have hsearch : (if t.search = "" then 0 else 1) ≤ 1 := by
    split
    · exact Nat.zero_le 1
    · exact Nat.le_refl 1
  unfold depth
  omega

theorem Coherent.atHome_iff {t : Tab} (h : t.Coherent) : t.AtHome ↔ t.depth = 0 := by
  constructor
  · rintro ⟨view, search, focus, -, editors⟩
    simp [depth, view, search, focus, editors, View.depth]
  · intro hdepth
    unfold depth at hdepth
    have editors : t.editors = [] := List.length_eq_zero_iff.1 (by omega)
    have focus : t.focus = .rows := by
      by_contra hfocus
      rw [if_neg hfocus] at hdepth
      omega
    have search : t.search = "" := by
      by_contra hsearch
      rw [if_neg hsearch] at hdepth
      omega
    have hview : t.view.depth = 0 := by omega
    have view : t.view = .list := by
      cases hv : t.view with
      | list => rfl
      | search => exact absurd search (h.consistent.search hv)
      | relate step => cases step <;> simp [hv, View.depth] at hview
      | _ => simp [hv, View.depth] at hview
    exact ⟨view, search, focus, h.form_none (.inl view), editors⟩

/-! ## Escape, view by view -/

theorem depth_of_rows {t : Tab} (he : t.editors = []) (hf : t.focus = .rows) :
    t.depth = t.view.depth + if t.search = "" then 0 else 1 := by
  unfold depth
  rw [he, hf]
  simp

/-- On the choice Escape goes down to the rows, on the rows it ends the search, and then there is nothing to leave. -/
theorem depth_pressList_esc {t : Tab} (he : t.editors = []) (hv : t.view.isList = true) :
    (t.pressList .esc).1.depth = t.depth - 1 := by
  have hview := View.depth_of_isList hv
  unfold pressList
  split
  · next choice hf =>
    have hrows := depth_of_rows (t := { t with focus := .rows }) he rfl
    show ({ t with focus := .rows } : Tab).depth = t.depth - 1
    rw [hrows]
    simp [depth, he, hf, hview]
  · next hf =>
    rw [depth_of_rows he hf, hview]
    show Tab.depth (if t.search.isEmpty then ({ t with marks := .empty }, []) else t.clearSearch).1 = _
    split
    · next hsearch =>
      have hrows := depth_of_rows (t := { t with marks := .empty }) he hf
      show ({ t with marks := .empty } : Tab).depth = _
      rw [hrows, hview, if_pos (String.isEmpty_iff.1 hsearch)]
    · next hsearch =>
      have hne : t.search ≠ "" := fun hs => hsearch (String.isEmpty_iff.2 hs)
      unfold clearSearch
      rw [if_neg hsearch, if_neg hne, depth_of_rows (t := (t.setSearch "").1) he hf]
      exact congrArg (· + 0) (depth_listView { t with search := "" })

/-- A view that Escape leaves for one that is not as deep. -/
theorem depth_of_leaves {t u : Tab} (he : t.editors = []) (hf : t.focus = .rows) (hu : u.editors = t.editors)
    (hfocus : u.focus = t.focus) (hsearch : u.search = t.search) (hview : u.view.depth + 1 = t.view.depth) :
    u.depth = t.depth - 1 := by
  rw [depth_of_rows he hf, depth_of_rows (hu.trans he) (hfocus.trans hf), hsearch, ← hview]
  omega

theorem depth_cancelForm {t : Tab} (he : t.editors = []) (hf : t.focus = .rows) (hv : t.view.hasForm = true) :
    t.cancelForm.depth = t.depth - 1 := by
  unfold cancelForm
  dsimp only
  split
  · next hedit => exact depth_of_leaves he hf rfl rfl rfl (hedit ▸ rfl)
  · next hdetails => exact depth_of_leaves he hf rfl rfl rfl (hdetails ▸ rfl)
  · next hedit hdetails =>
    have hadd : t.view = .add := (View.eq_of_hasForm hv).resolve_right fun h => h.elim hedit hdetails
    refine depth_of_leaves he hf rfl rfl rfl ?_
    rw [hadd]
    exact congrArg (· + 1) (depth_listView { t with form := none })

theorem depth_pressForm_esc {t : Tab} (he : t.editors = []) (hf : t.focus = .rows) (hv : t.view.hasForm = true)
    (hform : t.form.isSome = true) : (t.pressForm .esc).1.depth = t.depth - 1 := by
  unfold pressForm
  split
  · next hnone =>
    rw [hnone] at hform
    cases hform
  · exact depth_cancelForm he hf hv

theorem depth_pressDetail_esc {t : Tab} (he : t.editors = []) (hf : t.focus = .rows) (hv : t.view = .detail) :
    (t.pressDetail .esc).1.depth = t.depth - 1 := by
  have hview : t.listView.depth + 1 = t.view.depth := by rw [hv, depth_listView]; rfl
  unfold pressDetail
  split
  · exact depth_of_leaves he hf rfl rfl rfl hview
  · exact depth_of_leaves he hf rfl rfl rfl hview

theorem depth_leavePicker {t : Tab} (he : t.editors = []) (hf : t.focus = .rows) {step : RelateStep}
    (hv : t.view = .relate step) (hs : step ≠ .details) : (t.leavePicker step).1.depth = t.depth - 1 := by
  unfold leavePicker
  split
  · next htarget =>
    subst htarget
    exact depth_of_leaves (u := (setPickerQuery _ "").1) he hf rfl rfl rfl (hv ▸ rfl)
  · next htarget =>
    obtain rfl : step = .source := by cases step <;> simp_all
    refine depth_of_leaves he hf rfl rfl rfl ?_
    rw [hv]
    exact congrArg (· + 1) (depth_listView t)

theorem Coherent.depth_pressView_esc {t : Tab} (h : t.Coherent) (he : t.editors = []) :
    (t.pressView .esc).1.depth = t.depth - 1 := by
  have rows (hv : t.view.isList = false) : t.focus = .rows :=
    h.focus_rows (fun hl => by rw [hl] at hv; cases hv) (fun hs => by rw [hs] at hv; cases hv)
  have form (hv : t.view.hasForm = true) (hl : t.view.isList = false) :
      (t.pressForm .esc).1.depth = t.depth - 1 :=
    depth_pressForm_esc he (rows hl) hv (h.consistent.form.2 hv)
  unfold pressView
  split
  · next hv => exact depth_pressList_esc he (congrArg View.isList hv)
  · next hv => exact depth_pressList_esc he (congrArg View.isList hv)
  · next hv => exact depth_pressDetail_esc he (rows (congrArg View.isList hv)) hv
  · next hv => exact form (congrArg View.hasForm hv) (congrArg View.isList hv)
  · next hv => exact form (congrArg View.hasForm hv) (congrArg View.isList hv)
  · next action target back hv =>
    -- A question leads back to the record that it is about.
    obtain rfl := h.consistent.back _ _ _ hv
    exact depth_of_leaves he (rows (congrArg View.isList hv)) rfl rfl rfl (hv ▸ rfl)
  · next field hv =>
    refine depth_of_leaves (u := (t.pressBulkPrompt field .esc).1) he (rows (congrArg View.isList hv)) rfl rfl rfl ?_
    rw [hv]
    exact congrArg (· + 1) (depth_listView t)
  · next hv => exact form (congrArg View.hasForm hv) (congrArg View.isList hv)
  · next step hs hv => exact depth_leavePicker he (rows (congrArg View.isList hv)) hv hs

/-- Each Escape leaves one thing, as long as there is one. -/
theorem Coherent.depth_press_esc {t : Tab} (h : t.Coherent) : (t.press .esc).1.depth = t.depth - 1 := by
  rcases h.editing with he | ⟨e, f, he, -, -⟩
  · rw [press_of_no_editor he]
    exact Coherent.depth_pressView_esc (t := { t with error := none, notice := none }) (h.congr rfl) he
  · rw [press_esc_of_editor he]
    unfold depth
    dsimp only
    rw [he, List.length_singleton, List.length_nil]
    omega

/-! ## Runs -/

theorem Coherent.depth_pressed_esc {t : Tab} (h : t.Coherent) (n : Nat) : (t.pressed .esc n).depth = t.depth - n := by
  induction n with
  | zero => rfl
  | succ n ih =>
    have hn : (t.pressed .esc n).Coherent := h.onward _
    rw [pressed_succ, hn.depth_press_esc, ih, Nat.sub_sub]

/-- It takes Escape as often as the tab is deep. -/
theorem Coherent.atHome_pressed_esc_iff {t : Tab} (h : t.Coherent) (n : Nat) :
    (t.pressed .esc n).AtHome ↔ t.depth ≤ n := by
  have hn : (t.pressed .esc n).Coherent := h.onward _
  rw [hn.atHome_iff, h.depth_pressed_esc, Nat.sub_eq_zero_iff_le]

/-- Escape is not the key that writes in any view. -/
theorem esc_not_writes (v : View) : .esc ∉ v.writeKeys := by
  cases v with
  | relate step => cases step <;> simp [View.writeKeys]
  | _ => simp [View.writeKeys]

theorem not_mutating_of_esc (t : Tab) {c : Command} (hc : c ∈ (t.press .esc).2) : c.request.isMutating = false := by
  by_contra hm
  have hkey := (eq_of_sends .esc (deed_press t .esc).1.sends hc (Bool.not_eq_false _ ▸ hm)).2
  exact esc_not_writes _ hkey

/-- From any state that a tab can come to, Escape leads home in five steps, and home it stays; and however often
it is pressed, it never sends what changes records. -/
theorem escape_leads_home (kind : Kind) (es : List TabEvent) :
    let t := after kind es
    (t.pressed .esc 5).AtHome ∧ (∀ n, (t.pressed .esc n).AtHome → (t.pressed .esc (n + 1)).AtHome) ∧
      ∀ n, ∀ c ∈ ((t.pressed .esc n).press .esc).2, c.request.isMutating = false := by
  intro t
  have h : t.Coherent := coherent_after kind es
  refine ⟨(h.atHome_pressed_esc_iff 5).2 h.depth_le, fun n hn => ?_, fun n c hc => not_mutating_of_esc _ hc⟩
  have hdepth : t.depth ≤ n := (h.atHome_pressed_esc_iff n).1 hn
  exact (h.atHome_pressed_esc_iff (n + 1)).2 (Nat.le_succ_of_le hdepth)

/-- Four times do not do: a search is typed, both ends of a relationship are picked, and the editor of its properties
is opened. -/
example :
    (after .relationships [.input .activate, .input (.press (.char 'z')), .input (.press .up), .input (.press .enter),
      .deliver ⟨.relationships, .candidates, 1,
        .ok (.records [.named .entities "e-1" "Ann", .named .entities "e-2" "Bo"])⟩,
      .input (.press .enter), .input (.press .down), .input (.press .enter), .input (.press .down),
      .input (.press .enter)]).depth = 5 := rfl

end Tab

end RecordDesk
