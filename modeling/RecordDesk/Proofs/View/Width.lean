import Mathlib.Algebra.Order.BigOperators.Group.List
import Mathlib.Algebra.Order.Group.Nat
import Mathlib.Data.List.Forall2
import RecordDesk.View.Render

/-!
What a width leaves of a line. A line is cut as the list of its characters is, each with its tone (`characters_cut`),
and where the spans meet makes no difference to that. No span of a line is empty if the line is built with `push`, as
all lines of a tab are (`filled_fullLines`), and a cut makes none empty: it ends before the first span that has no
room. So a tab drawn at some width shows the beginnings of the lines that it shows when there is room for them all
(`render_shows_starts`).
-/

namespace RecordDesk

/-- The characters of a span, each with its tone. -/
def Span.characters (s : Span) : List (Char × Tone) := s.text.toList.map (·, s.tone)

namespace Line

/-- The characters of a line, each with the tone of its span. -/
def characters (l : Line) : List (Char × Tone) := l.spans.flatMap Span.characters

/-- No span of the line is empty. -/
def Filled (l : Line) : Prop := ∀ s ∈ l.spans, s.text ≠ ""

theorem toList_text (l : Line) : l.text.toList = l.characters.map Prod.fst := by
  unfold text characters Span.characters
  simp only [String.toList_join, List.flatMap_map, List.map_flatMap, List.map_map, Function.comp_def, List.map_id']

/-! ## Lines built span by span -/

@[simp] theorem filled_empty : empty.Filled := List.forall_mem_nil _

/-- What is pushed is a span only if it is not empty. -/
@[simp] theorem filled_push_iff {l : Line} {text : String} {tone : Tone} : (l.push text tone).Filled ↔ l.Filled := by
  unfold push
  split
  · exact Iff.rfl
  · next htext =>
    have hnew : text ≠ "" := mt String.isEmpty_iff.2 htext
    simp [Filled, or_imp, forall_and, hnew]

@[simp] theorem filled_toned (text : String) (tone : Tone) : (toned text tone).Filled :=
  filled_push_iff.2 filled_empty

@[simp] theorem filled_plain (text : String) : (plain text).Filled := filled_toned text .normal

/-! ## The cut -/

variable {l : Line} {ss : List Span} {s : Span} {width : Nat}

@[simp] theorem cutSpans_nil (width : Nat) : cutSpans width [] = [] := by rw [cutSpans]

@[simp] theorem cutSpans_zero (ss : List Span) : cutSpans 0 ss = [] := by cases ss <;> rfl

theorem cutSpans_succ (width : Nat) (s : Span) (ss : List Span) :
    cutSpans (width + 1) (s :: ss) =
      ⟨.ofList (s.text.toList.take (width + 1)), s.tone⟩ :: cutSpans (width + 1 - s.text.toList.length) ss := rfl

theorem characters_cutSpans (width : Nat) (ss : List Span) :
    (cutSpans width ss).flatMap Span.characters = (ss.flatMap Span.characters).take width := by
  induction ss generalizing width with
  | nil => rw [cutSpans_nil, List.flatMap_nil, List.take_nil]
  | cons s ss ih =>
    cases width with
    | zero => rw [cutSpans_zero, List.flatMap_nil, List.take_zero]
    | succ width =>
      rw [cutSpans_succ, List.flatMap_cons, List.flatMap_cons, ih, List.take_append]
      simp only [Span.characters, String.toList_ofList, List.map_take, List.length_map]

theorem characters_cut (l : Line) (width : Nat) : (l.cut width).characters = l.characters.take width :=
  characters_cutSpans width l.spans

theorem toList_text_cut (l : Line) (width : Nat) : (l.cut width).text.toList = l.text.toList.take width := by
  rw [toList_text, toList_text, characters_cut, List.map_take]

theorem filled_cutSpans (h : ∀ s ∈ ss, s.text ≠ "") : ∀ s ∈ cutSpans width ss, s.text ≠ "" := by
  induction ss generalizing width with
  | nil => rwa [cutSpans_nil]
  | cons s ss ih =>
    cases width with
    | zero => exact List.forall_mem_nil _
    | succ width =>
      obtain ⟨hfirst, hrest⟩ := List.forall_mem_cons.1 h
      refine List.forall_mem_cons.2 ⟨fun hempty => ?_, ih hrest⟩
      -- There is room for a character, and the span has one.
      rcases List.take_eq_nil_iff.1 (String.ofList_eq_empty_iff.1 hempty) with hzero | hnil
      · exact Nat.succ_ne_zero width hzero
      · exact hfirst (String.toList_eq_nil_iff.1 hnil)

theorem Filled.cut (h : l.Filled) (width : Nat) : (l.cut width).Filled := filled_cutSpans h

/-- A cut keeps the spans apart: each one is the beginning of the span in its place. -/
theorem exists_of_getElem?_cutSpans {i : Nat} (h : (cutSpans width ss)[i]? = some s) :
    ∃ s', ss[i]? = some s' ∧ s.tone = s'.tone ∧ s.text.toList <+: s'.text.toList := by
  induction ss generalizing width i with
  | nil => simp at h
  | cons first ss ih =>
    cases width with
    | zero => simp at h
    | succ width =>
      cases i with
      | zero =>
        obtain rfl := Option.some.inj h
        refine ⟨first, rfl, rfl, ?_⟩
        rw [String.toList_ofList]
        exact List.take_prefix _ _
      | succ i => exact ih h

theorem cutSpans_cutSpans (v w : Nat) (ss : List Span) : cutSpans w (cutSpans v ss) = cutSpans (min v w) ss := by
  induction ss generalizing v w with
  | nil => simp only [cutSpans_nil]
  | cons s ss ih =>
    cases v with
    | zero => rw [cutSpans_zero, cutSpans_nil, Nat.zero_min, cutSpans_zero]
    | succ v =>
      cases w with
      | zero => rw [Nat.min_zero, cutSpans_zero, cutSpans_zero]
      | succ w =>
        -- What both widths leave behind the first span, the smaller of them leaves there.
        have hrest : min (v + 1 - s.text.toList.length) (w + 1 - (s.text.toList.take (v + 1)).length) =
            min v w + 1 - s.text.toList.length := by
          rw [List.length_take]
          omega
        rw [Nat.add_min_add_right, cutSpans_succ, cutSpans_succ, cutSpans_succ, ih]
        simp only [String.toList_ofList, hrest, List.take_take, Nat.add_min_add_right, Nat.min_comm w v]

theorem cut_cut (l : Line) (v w : Nat) : (l.cut v).cut w = l.cut (min v w) :=
  congrArg Line.mk (cutSpans_cutSpans v w l.spans)

theorem cutSpans_of_length_le (h : ∀ s ∈ ss, s.text ≠ "") (hwidth : (ss.flatMap Span.characters).length ≤ width) :
    cutSpans width ss = ss := by
  induction ss generalizing width with
  | nil => exact cutSpans_nil width
  | cons s ss ih =>
    obtain ⟨hfirst, hrest⟩ := List.forall_mem_cons.1 h
    have hpos : 0 < s.text.toList.length := List.length_pos_iff.2 (mt String.toList_eq_nil_iff.1 hfirst)
    rw [List.flatMap_cons, List.length_append, Span.characters, List.length_map] at hwidth
    obtain ⟨n, rfl⟩ : ∃ n, width = n + 1 := ⟨width - 1, by omega⟩
    rw [cutSpans_succ, ih hrest (by omega), List.take_of_length_le (by omega), String.ofList_toList]

/-- A line for which there is room stays as it is. -/
theorem Filled.cut_eq_self (h : l.Filled) (hwidth : l.characters.length ≤ width) : l.cut width = l :=
  congrArg Line.mk (cutSpans_of_length_le h hwidth)

/-- The line `l` is what `width` characters of `full` show: they have their tones, and stand in their spans. -/
structure IsStart (l full : Line) (width : Nat) : Prop where
  text : l.text.toList = full.text.toList.take width
  characters : l.characters = full.characters.take width
  filled : l.Filled
  -- Spans of one tone are not put together, and none is taken apart.
  spans : ∀ (i : Nat) (s : Span), l.spans[i]? = some s →
    ∃ s', full.spans[i]? = some s' ∧ s.tone = s'.tone ∧ s.text.toList <+: s'.text.toList

theorem Filled.isStart_cut (h : l.Filled) (width : Nat) : (l.cut width).IsStart l width where
  text := toList_text_cut l width
  characters := characters_cut l width
  filled := h.cut width
  spans := fun _ _ => exists_of_getElem?_cutSpans

theorem IsStart.length_le {full : Line} (h : l.IsStart full width) : l.text.toList.length ≤ width := by
  rw [h.text]
  exact List.length_take_le _ _

end Line

/-! ## The lines of a tab -/

namespace Tab

theorem filled_header (t : Tab) : t.header.Filled := by
  unfold header
  dsimp only
  split <;> split <;> split <;> simp

theorem filled_searchLine (t : Tab) : t.searchLine.Filled := by
  unfold searchLine
  split <;> simp

theorem filled_listLines (t : Tab) : ∀ l ∈ t.listLines, l.Filled := by
  unfold listLines
  refine List.forall_mem_cons.2 ⟨by simp [toggleLine], List.forall_mem_cons.2 ⟨t.filled_searchLine, ?_⟩⟩
  split
  · simp
  · intro l hl
    obtain ⟨i, _, rfl⟩ := List.mem_mapIdx.1 hl
    exact Line.filled_toned _ _

theorem filled_detailView (t : Tab) : ∀ l ∈ t.detailView, l.Filled := by
  unfold detailView
  split
  · simp
  · simp only [List.forall_mem_append, List.forall_mem_map]
    refine ⟨⟨⟨by simp, by simp⟩, ?_⟩, by simp⟩
    split
    · exact List.forall_mem_nil _
    · simp

theorem filled_valueSpans {l : Line} (h : l.Filled) (v : FieldValue) : (valueSpans l v).Filled := by
  cases v with
  | text | choice | labels | structured => simpa [valueSpans] using h

theorem filled_editorLines (e : Editor) : ∀ l ∈ editorLines e, l.Filled := by
  unfold editorLines
  split <;> simp [or_imp, forall_and]

theorem filled_formLines (t : Tab) : ∀ l ∈ t.formLines, l.Filled := by
  unfold formLines
  split
  · exact List.forall_mem_nil _
  refine List.forall_mem_cons.2 ⟨Line.filled_toned _ _, ?_⟩
  split
  · exact filled_editorLines _
  refine List.forall_mem_append.2 ⟨fun l hl => ?_, by simp⟩
  obtain ⟨i, _, rfl⟩ := List.mem_mapIdx.1 hl
  exact filled_valueSpans (Line.filled_toned _ _) _

theorem filled_pickerLines (t : Tab) (prompt : String) : ∀ l ∈ t.pickerLines prompt, l.Filled := by
  unfold pickerLines
  simp only [List.forall_mem_append]
  refine ⟨⟨⟨by simp, by split <;> simp⟩, fun l hl => ?_⟩, by simp⟩
  obtain ⟨i, _, rfl⟩ := List.mem_mapIdx.1 hl
  exact Line.filled_toned _ _

theorem filled_viewLines (t : Tab) : ∀ l ∈ t.viewLines, l.Filled := by
  unfold viewLines
  split
  · exact t.filled_listLines
  · exact t.filled_listLines
  · exact t.filled_detailView
  · exact t.filled_formLines
  · exact t.filled_formLines
  · simp [confirmLines]
  · simp [bulkLines]
  · refine List.forall_mem_cons.2 ⟨Line.filled_toned _ _, ?_⟩
    split
    · exact t.filled_pickerLines _
    · exact t.filled_pickerLines _
    · exact t.filled_formLines

theorem filled_messageLines (t : Tab) : ∀ l ∈ t.messageLines, l.Filled := by
  unfold messageLines
  split <;> simp

/-- No line of a tab has a span without text, whatever is shown. -/
theorem filled_fullLines (t : Tab) : ∀ l ∈ t.fullLines, l.Filled :=
  List.forall_mem_cons.2 ⟨t.filled_header, List.forall_mem_append.2 ⟨t.filled_viewLines, t.filled_messageLines⟩⟩

/-- Where there is room for all lines, they are drawn as they are. -/
theorem render_eq_fullLines (t : Tab) {wide : Nat} (h : ∀ l ∈ t.fullLines, l.characters.length ≤ wide) :
    t.render wide = t.fullLines := by
  calc t.fullLines.map (·.cut wide) = t.fullLines.map fun l => l :=
        List.map_congr_left fun l hl => (t.filled_fullLines l hl).cut_eq_self (h l hl)
    _ = t.fullLines := List.map_id' _

/-- Of a line without empty spans a width leaves the first characters, each in its tone and its span, and no span is
empty then; two widths one after the other leave what the smaller one leaves. So a tab that is drawn at some width shows
of each line that it has as many characters as there is room for; and those are the lines that it shows at any width
that is large enough. -/
theorem render_shows_starts :
    (∀ (l : Line) (width : Nat), l.Filled →
      (l.cut width).IsStart l width ∧ ∀ w, (l.cut width).cut w = l.cut (min width w)) ∧
    ∀ t : Tab,
      (∀ width, List.Forall₂ (fun l full => l.IsStart full width ∧ l.text.toList.length ≤ width)
        (t.render width) t.fullLines) ∧
      ∃ enough, ∀ wide, enough ≤ wide → t.render wide = t.fullLines := by
  refine ⟨fun l width h => ⟨h.isStart_cut width, l.cut_cut width⟩, fun t => ⟨fun width => ?_, ?_⟩⟩
  · refine List.forall₂_map_left_iff.2 (List.forall₂_same.2 fun full hfull => ?_)
    have hstart := (t.filled_fullLines full hfull).isStart_cut width
    exact ⟨hstart, hstart.length_le⟩
  · refine ⟨(t.fullLines.map fun l => l.characters.length).sum, fun wide hwide => ?_⟩
    refine t.render_eq_fullLines fun l hl => le_trans ?_ hwide
    exact List.le_sum_of_mem (List.mem_map_of_mem hl)

/-- A cut within the second of three spans, and one between the first two. -/
theorem render_shows_starts_across_spans :
    let l := ((Line.toned "abc" .header).push "défg" .normal).push "h" .dim
    l.Filled ∧ l.cut 5 = ⟨[⟨"abc", .header⟩, ⟨"dé", .normal⟩]⟩ ∧ (l.cut 5).IsStart l 5 ∧
      (l.cut 5).cut 3 = l.cut 3 ∧ l.cut 3 = ⟨[⟨"abc", .header⟩]⟩ := by
  intro l
  have hfilled : l.Filled := by simp [l]
  obtain ⟨hstart, hcut⟩ := render_shows_starts.1 l 5 hfilled
  exact ⟨hfilled, by decide, hstart, hcut 3, by decide⟩

end Tab
end RecordDesk
