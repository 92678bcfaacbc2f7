import RecordDesk.Proofs.Tab.Bench
import RecordDesk.Proofs.Tab.OpenForm
import RecordDesk.Proofs.View.Width

/-!
The line that is highlighted and the record that the keys act on. The one is drawn from the labels in the
window, the other is looked up in the rows or among the candidates. In every state that a tab comes to they
belong together (`highlight_is_acted_on`), since labels and records are always put in together.
-/

namespace RecordDesk

/-! ## Lines with a highlight -/

namespace Line

/-- A span of the line is drawn as selected. -/
def isHighlighted (l : Line) : Bool := l.spans.any fun s => s.tone = .selected

/-- The first characters of a text in one span that is drawn as selected. -/
def highlighted (width : Nat) (text : String) : Line := ⟨[⟨.ofList (text.toList.take width), .selected⟩]⟩

theorem isHighlighted_push {tone : Tone} (h : tone ≠ .selected) (l : Line) (text : String) :
    (l.push text tone).isHighlighted = l.isHighlighted := by
  unfold push isHighlighted
  split
  · rfl
  · rw [List.any_append, List.any_cons, List.any_nil, decide_eq_false h, Bool.or_false, Bool.or_false]

theorem isHighlighted_toned {tone : Tone} (h : tone ≠ .selected) (text : String) :
    (toned text tone).isHighlighted = false := isHighlighted_push h empty text

/-- A cut may take a highlight away, but it adds none. -/
theorem isHighlighted_of_cut {l : Line} {width : Nat} (h : (l.cut width).isHighlighted = true) :
    l.isHighlighted = true := by
  obtain ⟨s, hmem, hselected⟩ := List.any_eq_true.1 h
  obtain ⟨i, hs⟩ := List.mem_iff_getElem?.1 hmem
  obtain ⟨s', hs', htone, -⟩ := exists_of_getElem?_cutSpans hs
  exact List.any_eq_true.2 ⟨s', List.mem_of_getElem? hs', htone ▸ hselected⟩

theorem isHighlighted_toned_selected {text : String} (h : text ≠ "") :
    (toned text .selected).isHighlighted = true := by
  unfold toned push
  rw [if_neg (mt String.isEmpty_iff.1 h)]
  rfl

theorem cut_toned_selected {text : String} (h : text ≠ "") {width : Nat} (hwidth : 0 < width) :
    (toned text .selected).cut width = highlighted width text := by
  obtain ⟨n, rfl⟩ := Nat.exists_eq_succ_of_ne_zero (Nat.ne_of_gt hwidth)
  unfold toned push
  rw [if_neg (mt String.isEmpty_iff.1 h)]
  rfl

/-- A highlight at the beginning of a line is not cut away, so of lines among which one is highlighted the
same one is highlighted after cutting. -/
theorem filter_map_cut {ls : List Line} {text : String} (htext : text ≠ "")
    (h : ls.filter isHighlighted = [toned text .selected]) {width : Nat} (hwidth : 0 < width) :
    (ls.map (·.cut width)).filter isHighlighted = [highlighted width text] := by
  have hcut := cut_toned_selected htext hwidth
  let stays (l : Line) : Bool := (l.cut width).isHighlighted
  have hself : stays (toned text .selected) = true := congrArg isHighlighted hcut
  have hboth (l : Line) : (stays l && l.isHighlighted) = stays l := by
    rw [Bool.and_eq_left_iff_imp]
    exact isHighlighted_of_cut
  have hstays : ls.filter stays = [toned text .selected] := by
    calc ls.filter stays = (ls.filter isHighlighted).filter stays := by
          rw [List.filter_filter, funext hboth]
      _ = [toned text .selected].filter stays := by rw [h]
      _ = [toned text .selected] := List.filter_cons_of_pos hself
  rw [List.filter_map, ← hcut]
  exact congrArg (List.map (·.cut width)) hstays

end Line

/-! ## Drawing a list -/

/-- Of a list drawn item by item, the item at one index is all that is left when it alone is to stay. -/
theorem filter_mapIdx_of_index {α β : Type} {p : β → Bool} {xs : List α} {f : Nat → α → β} {k : Nat} {x : α}
    (hx : xs[k]? = some x) (hp : ∀ i a, p (f i a) = true ↔ i = k) : (xs.mapIdx f).filter p = [f k x] := by
  induction xs generalizing f k with
  | nil => cases hx
  | cons a xs ih =>
    rw [List.mapIdx_cons]
    cases k with
    | zero =>
      obtain rfl : a = x := Option.some.inj hx
      rw [List.filter_cons_of_pos ((hp 0 a).2 rfl), List.cons_eq_cons, and_iff_right rfl,
        List.filter_eq_nil_iff]
      intro b hb
      obtain ⟨i, _, rfl⟩ := List.mem_mapIdx.1 hb
      exact fun hpos => Nat.succ_ne_zero i ((hp _ _).1 hpos)
    | succ k =>
      rw [List.filter_cons_of_neg fun hpos => Nat.succ_ne_zero k ((hp 0 a).1 hpos).symm]
      exact ih hx fun i b => (hp (i + 1) b).trans Nat.succ_inj

namespace ListWindow

variable {w : ListWindow}

/-- A list of labels that is not empty has its selected label in sight. -/
theorem Shows.exists_selected {α : Type} {xs : List α} {label : α → String} (h : w.Shows (xs.map label))
    (hne : xs ≠ []) :
    w.labels ≠ [] ∧ w.selected? = some w.selection ∧
      ∃ x, xs[w.selection]? = some x ∧ w.visible[w.selection - w.start]? = some (label x) := by
  have hlabels := h.labels
  have hlen : w.size = xs.length := (congrArg List.length hlabels).trans (List.length_map _)
  have hpos : 0 < xs.length := List.length_pos_iff.2 hne
  have hselection : w.selection < xs.length := by
    have := h.framed.selection
    omega
  have hnil : w.labels ≠ [] := fun hnil => hne (List.map_eq_nil_iff.1 (hlabels.symm.trans hnil))
  refine ⟨hnil, if_neg fun hempty => hnil (List.isEmpty_iff.1 hempty), xs[w.selection],
    List.getElem?_eq_getElem hselection, ?_⟩
  rw [h.framed.getElem?_visible, hlabels, List.getElem?_map, List.getElem?_eq_getElem hselection]
  rfl

theorem isSelected_of_selected {i : Nat} (h : w.selected? = some i) : w.isSelected i = true := by
  unfold isSelected
  rw [h, beq_self_eq_true]

/-- When the labels in sight are drawn, the selected one is drawn once. -/
theorem filter_visible {β : Type} {p : β → Bool} {draw : Nat → String → β} {label : String}
    (framed : w.Framed) (selected : w.selected? = some w.selection)
    (hlabel : w.visible[w.selection - w.start]? = some label)
    (hdraw : ∀ i l, p (draw i l) = w.isSelected i) :
    (w.visible.mapIdx fun i l => draw (w.start + i) l).filter p = [draw w.selection label] := by
  have hstart := framed.start
  have hindex : w.start + (w.selection - w.start) = w.selection := by omega
  have hone := filter_mapIdx_of_index (p := p) (f := fun i l => draw (w.start + i) l) hlabel fun i l => by
    rw [hdraw, isSelected, selected, beq_iff_eq, Option.some_inj]
    omega
  rw [hone, hindex]

end ListWindow

namespace Tab

/-! ## Lines of a tab -/

theorem isHighlighted_header (t : Tab) : t.header.isHighlighted = false := by
  unfold header
  dsimp only
  split <;> split <;> split <;>
    simp [Line.isHighlighted_push, Line.isHighlighted_toned]

theorem isHighlighted_messageLines {t : Tab} {l : Line} (h : l ∈ t.messageLines) : l.isHighlighted = false := by
  unfold messageLines at h
  split at h
  · rw [List.mem_singleton.1 h]
    exact Line.isHighlighted_toned (by decide) _
  · rw [List.mem_singleton.1 h]
    exact Line.isHighlighted_toned (by decide) _
  · exact absurd h List.not_mem_nil

/-- Neither the header nor a message is highlighted. -/
theorem filter_fullLines (t : Tab) :
    t.fullLines.filter Line.isHighlighted = t.viewLines.filter Line.isHighlighted := by
  have hmessages : t.messageLines.filter Line.isHighlighted = [] :=
    List.filter_eq_nil_iff.2 fun l hl => ne_true_of_eq_false (isHighlighted_messageLines hl)
  unfold fullLines
  rw [List.filter_cons_of_neg (ne_true_of_eq_false t.isHighlighted_header), List.filter_append, hmessages,
    List.append_nil]

/-! ## The list -/

theorem append_ne_empty {mark : String} (h : mark ≠ "") (label : String) : mark ++ label ≠ "" :=
  fun hempty => h (String.append_eq_empty_iff.1 hempty).1

theorem mark_ne_empty (marked : Bool) : (if marked then "* " else "  ") ≠ "" := by
  cases marked <;> decide

theorem isHighlighted_rowLine {t : Tab} (hf : t.focus = .rows) (index : Nat) (label : String) :
    (t.rowLine index label).isHighlighted = t.list.isSelected index := by
  unfold rowLine
  dsimp only
  rw [hf]
  cases t.list.isSelected index with
  | true => exact Line.isHighlighted_toned_selected (append_ne_empty (mark_ne_empty _) label)
  | false =>
    refine Line.isHighlighted_toned ?_ _
    rw [Bool.false_and, if_neg Bool.false_ne_true]
    split
    · decide
    · decide

theorem filter_listLines {t : Tab} (hf : t.focus = .rows) (hlabels : t.list.labels ≠ []) :
    t.listLines.filter Line.isHighlighted =
      (t.list.visible.mapIdx fun i label => t.rowLine (t.list.start + i) label).filter Line.isHighlighted := by
  have htone (choice : ToggleChoice) : t.toggleTone choice = .dim := by
    unfold toggleTone
    rw [hf]
    exact if_neg nofun
  have htoggle : ¬ t.toggleLine.isHighlighted = true := by
    unfold toggleLine
    rw [htone, htone, Line.isHighlighted_push (by decide), Line.isHighlighted_push (by decide),
      Line.isHighlighted_push (by decide)]
    exact Bool.false_ne_true
  have hsearch : ¬ t.searchLine.isHighlighted = true := by
    unfold searchLine
    dsimp only
    split <;> simp [Line.isHighlighted_push, Line.isHighlighted_toned]
  unfold listLines
  rw [List.filter_cons_of_neg htoggle, List.filter_cons_of_neg hsearch,
    if_neg fun hempty => hlabels (List.isEmpty_iff.1 hempty)]

/-- The text of a row, behind its mark. -/
def rowText (t : Tab) (r : Record) : String :=
  (if t.marks.contains r.id then "* " else "  ") ++ t.kind.rowLabel r

theorem rowLine_of_selected {t : Tab} (hf : t.focus = .rows) {index : Nat}
    (hselected : t.list.isSelected index = true) {r : Record} (hr : t.rows[index]? = some r) :
    t.rowLine index (t.kind.rowLabel r) = Line.toned (t.rowText r) .selected := by
  unfold rowLine rowText
  dsimp only
  rw [hr, Option.any_some, hselected, hf]
  rfl

theorem viewLines_of_isList {t : Tab} (hv : t.view.isList = true) : t.viewLines = t.listLines := by
  unfold viewLines
  rcases View.eq_of_isList hv with hlist | hsearch
  · rw [hlist]
  · rw [hsearch]

/-- The selected row is the one line that is highlighted. -/
theorem drawn_row {t : Tab} (list : t.list.Shows (t.rows.map t.kind.rowLabel)) (hv : t.view.isList = true)
    (hf : t.focus = .rows) (hne : t.rows ≠ []) {width : Nat} (hwidth : 0 < width) :
    ∃ r, t.selected? = some r ∧
      (t.render width).filter Line.isHighlighted = [.highlighted width (t.rowText r)] := by
  obtain ⟨hlabels, hselected, r, hr, hlabel⟩ := list.exists_selected hne
  have hself := ListWindow.isSelected_of_selected hselected
  have hone : t.fullLines.filter Line.isHighlighted = [Line.toned (t.rowText r) .selected] := by
    rw [filter_fullLines, viewLines_of_isList hv, filter_listLines hf hlabels,
      ListWindow.filter_visible list.framed hselected hlabel (isHighlighted_rowLine hf),
      rowLine_of_selected hf hself hr]
  refine ⟨r, ?_, Line.filter_map_cut (append_ne_empty (mark_ne_empty _) _) hone hwidth⟩
  unfold selected?
  rw [hselected, Option.bind_some, hr]

/-- The list says which record its keys act on. -/
structure PointsAt (t : Tab) (r : Record) (width : Nat) : Prop where
  selected : t.selected? = some r
  drawn : (t.render width).filter Line.isHighlighted = [.highlighted width (t.rowText r)]
  opens : (t.press .enter).1.view = .detail ∧ (t.press .enter).1.detail = some r
  asks : (t.press .enter).2 =
    if t.requests.isPending .detail then [] else [⟨t.kind, .detail, 0, .get t.kind r.id⟩]
  marks : t.search = "" →
    t.press (.char ' ') = ({ t with error := none, notice := none, marks := t.marks.toggle r.id }, [])

theorem pressRows_space {t : Tab} (hsearch : t.search = "") {r : Record} (h : t.selected? = some r) :
    t.pressRows (.char ' ') = ({ t with marks := t.marks.toggle r.id }, []) := by
  simp only [pressRows, if_pos (String.isEmpty_iff.2 hsearch), h]

theorem pointsAt {t : Tab} (he : t.editors = []) (list : t.list.Shows (t.rows.map t.kind.rowLabel))
    (hv : t.view.isList = true) (hf : t.focus = .rows) (hne : t.rows ≠ []) {width : Nat} (hwidth : 0 < width) :
    ∃ r, t.PointsAt r width := by
  obtain ⟨r, hr, hdrawn⟩ := drawn_row list hv hf hne hwidth
  let quiet : Tab := { t with error := none, notice := none }
  have henter : t.press .enter =
      { quiet with detail := some r, view := .detail }.issue .detail 0 (.get t.kind r.id) :=
    (press_of_rows he hv hf .enter).trans (openDetail_of_selected (t := quiet) hr)
  have hscene := congrArg (fun x => x.1.scene) henter
  rw [scene_issue] at hscene
  exact ⟨r,
    { selected := hr
      drawn := hdrawn
      opens := ⟨congrArg Scene.view hscene, congrArg Scene.detail hscene⟩
      asks := by rw [henter, commands_issue]
      marks := fun hsearch =>
        (press_of_rows he hv hf _).trans (pressRows_space (t := quiet) hsearch hr) }⟩

/-! ## The picker -/

theorem isHighlighted_candidateLine (t : Tab) (index : Nat) (label : String) :
    (t.candidateLine index label).isHighlighted = t.picker.list.isSelected index := by
  unfold candidateLine
  cases t.picker.list.isSelected index with
  | true => exact Line.isHighlighted_toned_selected (append_ne_empty (by decide) label)
  | false => exact Line.isHighlighted_toned (by decide) _

theorem filter_pickerLines {t : Tab} (hlabels : t.picker.list.labels ≠ []) (prompt : String) :
    (t.pickerLines prompt).filter Line.isHighlighted =
      (t.picker.list.visible.mapIdx fun i label =>
        t.candidateLine (t.picker.list.start + i) label).filter Line.isHighlighted := by
  have hprompt : ¬ ((Line.toned prompt .dim).push t.picker.query .normal).isHighlighted = true := by
    rw [Line.isHighlighted_push (by decide), Line.isHighlighted_toned (by decide)]
    exact Bool.false_ne_true
  have hhint : ¬ (Line.toned "type to filter  enter pick  esc back" .hint).isHighlighted = true :=
    ne_true_of_eq_false (Line.isHighlighted_toned (by decide) _)
  unfold pickerLines
  rw [if_neg fun hempty => hlabels (List.isEmpty_iff.1 hempty), List.append_nil, List.filter_append,
    List.filter_append, List.filter_cons_of_neg hprompt, List.filter_cons_of_neg hhint, List.filter_nil,
    List.nil_append, List.append_nil]

theorem filter_relateLines {t : Tab} {step : RelateStep} (hs : step ≠ .details)
    (hlabels : t.picker.list.labels ≠ []) :
    (t.relateLines step).filter Line.isHighlighted =
      (t.picker.list.visible.mapIdx fun i label =>
        t.candidateLine (t.picker.list.start + i) label).filter Line.isHighlighted := by
  unfold relateLines
  rw [List.filter_cons_of_neg (ne_true_of_eq_false (Line.isHighlighted_toned (by decide) _))]
  cases step with
  | source | target => exact filter_pickerLines hlabels _
  | details => exact absurd rfl hs

/-- The selected candidate is the one line that is highlighted. -/
theorem drawn_candidate {t : Tab} (list : t.picker.list.Shows (t.picker.candidates.map Record.title))
    {step : RelateStep} (hv : t.view = .relate step) (hs : step ≠ .details) (hne : t.picker.candidates ≠ [])
    {width : Nat} (hwidth : 0 < width) :
    ∃ r, t.picker.selected? = some r ∧
      (t.render width).filter Line.isHighlighted = [.highlighted width ("  " ++ r.title)] := by
  obtain ⟨hlabels, hselected, r, hr, hlabel⟩ := list.exists_selected hne
  have hself := ListWindow.isSelected_of_selected hselected
  have hline : t.candidateLine t.picker.list.selection r.title = Line.toned ("  " ++ r.title) .selected := by
    unfold candidateLine
    rw [hself]
    rfl
  have hview : t.viewLines = t.relateLines step := by
    unfold viewLines
    rw [hv]
  have hone : t.fullLines.filter Line.isHighlighted = [Line.toned ("  " ++ r.title) .selected] := by
    rw [filter_fullLines, hview, filter_relateLines hs hlabels,
      ListWindow.filter_visible list.framed hselected hlabel (isHighlighted_candidateLine t), hline]
  refine ⟨r, ?_, Line.filter_map_cut (append_ne_empty (by decide) _) hone hwidth⟩
  unfold Picker.selected?
  rw [hselected, Option.bind_some, hr]

/-- The picker says which candidate Enter takes for the end that is being picked. -/
structure PicksFrom (t : Tab) (step : RelateStep) (r : Record) (width : Nat) : Prop where
  selected : t.picker.selected? = some r
  drawn : (t.render width).filter Line.isHighlighted = [.highlighted width ("  " ++ r.title)]
  source : step = .source →
    (t.press .enter).1.view = .relate .target ∧ (t.press .enter).1.picker.source = some r
  target : step = .target → (t.picker.source.any fun s => s.id == r.id) = false →
    (t.press .enter).1.view = .relate .details ∧ (t.press .enter).1.picker.target = some r
  -- The two ends are different.
  refuses : step = .target → (t.picker.source.any fun s => s.id == r.id) = true →
    t.press .enter =
      ({ t with error := some "pick a different target than the source", notice := none }, [])

theorem picksFrom {t : Tab} (he : t.editors = [])
    (list : t.picker.list.Shows (t.picker.candidates.map Record.title)) {step : RelateStep}
    (hv : t.view = .relate step) (hs : step ≠ .details) (hne : t.picker.candidates ≠ []) {width : Nat}
    (hwidth : 0 < width) : ∃ r, t.PicksFrom step r width := by
  obtain ⟨r, hr, hdrawn⟩ := drawn_candidate list hv hs hne hwidth
  have henter : t.press .enter = { t with error := none, notice := none }.pick step :=
    press_of_picker he hv hs .enter
  refine ⟨r, hr, hdrawn, ?_, ?_, ?_⟩
  · rintro rfl
    rw [henter]
    simp only [pick, hr, if_true]
    exact ⟨rfl, rfl⟩
  · rintro rfl hother
    rw [henter]
    simp only [pick, hr, hother]
    exact ⟨rfl, rfl⟩
  · rintro rfl hsame
    rw [henter]
    simp only [pick, hr, hsame]
    rfl

/-! ## Runs -/

theorem editors_of_picking {t : Tab} (h : t.Coherent) {step : RelateStep} (hv : t.view = .relate step)
    (hs : step ≠ .details) : t.editors = [] := by
  refine h.editors_nil (h.consistent.form_none ?_)
  cases step with
  | source | target => rw [hv]; rfl
  | details => exact absurd rfl hs

/-- In every state that a tab comes to and at any width: when the keys go to the rows of the list, and it has
any, just one line is highlighted, and shows the record that Enter opens and that Space marks. When an end of
a relationship is picked, and there are candidates, just one line is highlighted, and shows the candidate
that Enter takes. -/
theorem highlight_is_acted_on (kind : Kind) (es : List TabEvent) {width : Nat} (hwidth : 0 < width) :
    let t := after kind es
    (t.view.isList = true → t.focus = .rows → t.rows ≠ [] → ∃ r, t.PointsAt r width) ∧
      ∀ step, t.view = .relate step → step ≠ .details → t.picker.candidates ≠ [] →
        ∃ r, t.PicksFrom step r width := by
  intro t
  have hcoherent := coherent_after kind es
  have htidy := tidy_after kind es
  refine ⟨fun hv hf hne => ?_, fun step hv hs hne => ?_⟩
  · have he := hcoherent.editors_nil (hcoherent.form_none (View.eq_of_isList hv))
    exact pointsAt he htidy.list hv hf hne hwidth
  · exact picksFrom (editors_of_picking hcoherent hv hs) htidy.picker hv hs hne hwidth

def nightJob : Record := .named .jobs "job-2" "Night shift"

/-- The second of two jobs is selected and marked. -/
def markingSecond : List TabEvent :=
  [.input .activate, .deliver ⟨.jobs, .load, 1, .ok (.records [.named .jobs "job-1" "Day shift", nightJob])⟩,
    .input (.press .down), .input (.press (.char ' '))]

def beta : Record := .named .entities "ent-2" "Beta"

/-- The first of two entities has been picked, and the second one is selected. -/
def pickingSecond : List TabEvent :=
  [.input .activate, .input (.press .up), .input (.press .enter),
    .deliver ⟨.relationships, .candidates, 1, .ok (.records [.named .entities "ent-1" "Alpha", beta])⟩,
    .input (.press .enter), .input (.press .down)]

theorem highlight_on_second :
    let t := after .jobs markingSecond
    let u := after .relationships pickingSecond
    t.PointsAt nightJob 8 ∧ (t.render 8).filter Line.isHighlighted = [⟨[⟨"* [mediu", .selected⟩]⟩] ∧
      u.PicksFrom .target beta 8 := by
  intro t u
  obtain ⟨r, hpoints⟩ := (highlight_is_acted_on .jobs markingSecond (Nat.zero_lt_succ 7)).1 rfl rfl (by decide)
  obtain ⟨c, hpicks⟩ :=
    (highlight_is_acted_on .relationships pickingSecond (Nat.zero_lt_succ 7)).2 .target rfl (by decide) (by decide)
  obtain rfl : nightJob = r := Option.some.inj hpoints.selected
  obtain rfl : beta = c := Option.some.inj hpicks.selected
  exact ⟨hpoints, hpoints.drawn, hpicks⟩

end Tab

end RecordDesk
