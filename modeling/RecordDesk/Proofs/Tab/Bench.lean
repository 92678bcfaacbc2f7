import RecordDesk.Proofs.ListWindow
import RecordDesk.Proofs.Tab.Transitions

/-!
What keys and deliveries do to the list, the marks on it and the picker. A key does one of a few things to
them (`Use`), and so does a delivery (`Told`). There is one theorem for each handler, up to `use_press` and
`told_deliver`; whatever is said about the rows, the marks or the picker in the course of a run splits on
these cases and does not look into the handlers again.

The first to do so is `tidy_after`: what the list shows is always its rows, with the selection in sight.
-/

namespace RecordDesk

namespace View

/-- The picker of relationships is open. -/
def isPicking : View → Bool
  | .relate _ => true
  | _ => false

/-- Neither a bulk prompt nor the picker. -/
def isPlain : View → Bool
  | .bulkPrompt _ => false
  | .relate _ => false
  | _ => true

theorem eq_of_isList {v : View} (h : v.isList = true) : v = .list ∨ v = .search := by
  cases v <;> simp_all [isList]

theorem isPicking_of_isList {v : View} (h : v.isList = true) : v.isPicking = false := by
  cases v <;> simp_all [isList, isPicking]

theorem isPicking_of_isPlain {v : View} (h : v.isPlain = true) : v.isPicking = false := by
  cases v <;> simp_all [isPlain, isPicking]

theorem eq_of_hasForm {v : View} (h : v.hasForm = true) : v = .add ∨ v = .edit ∨ v = .relate .details := by
  cases v with
  | relate step => cases step <;> simp_all [hasForm]
  | _ => simp_all [hasForm]

end View

namespace Picker

/-- The picker with its query sent once more, under the next number. -/
def asked (p : Picker) : Picker := { p with generation := p.generation + 1 }

/-- The picker with the records that have come; without a query they are the new catalog, too. -/
def answered (p : Picker) (rs : List Record) : Picker :=
  (if p.query.isEmpty then { p with catalog := rs } else p).setCandidates rs

end Picker

/-- A search for nothing hits everything. -/
theorem Search.hit_empty (label : String) : Search.hit "" label = true := rfl

/-- The part of a tab that lists, marks and picks. -/
structure Bench where
  kind : Kind
  view : View
  search : String
  marks : NameSet
  catalog : List Record
  rows : List Record
  list : ListWindow
  picker : Picker

namespace Bench

/-- The bench with other rows. -/
def setRows (x : Bench) (rs : List Record) : Bench :=
  { x with rows := rs, list := x.list.setItems (rs.map x.kind.rowLabel) }

/-- The bench with the records that have come; without a search they are the new catalog, too. -/
def applyRows (x : Bench) (rs : List Record) : Bench :=
  { x.setRows rs with catalog := if x.search.isEmpty then rs else x.catalog }

/-- What a key can do. -/
inductive Use (x : Bench) : Bench → Prop where
  | stay : Use x x
  | turn {v : View} (free : x.view.isPicking = false) (plain : v.isPlain = true) : Use x { x with view := v }
  | mark {marks : NameSet} (view : x.view.isList = true) : Use x { x with marks }
  | scroll {list : ListWindow} (moved : list = x.list.up ∨ list = x.list.down) : Use x { x with list }
  | refill {v : View} {search : String} (view : x.view.isList = true) (plain : v.isPlain = true) :
      Use x { x.setRows (x.catalog.filter fun r => Search.hit search r.title) with view := v, search }
  | prompt {field : BulkField} (view : x.view.isList = true) (marked : x.marks.isEmpty = false) :
      Use x { x with view := .bulkPrompt field }
  | relate (view : x.view.isList = true) :
      Use x { x with view := .relate .source, picker := x.picker.restart.asked }
  -- Whether the query is edited or another end is picked for, it is sent anew.
  | ask {step : RelateStep} {source : Option Record} {query : String} (picking : x.view.isPicking = true) :
      Use x { x with view := .relate step, picker := ({ x.picker with source }.setQuery query).asked }
  | aim {step : RelateStep} {target : Option Record} (picking : x.view.isPicking = true) :
      Use x { x with view := .relate step, picker := { x.picker with target } }
  | scrollPicker {list : ListWindow} (moved : list = x.picker.list.up ∨ list = x.picker.list.down) :
      Use x { x with picker := { x.picker with list } }
  | leave {v : View} (picking : x.view.isPicking = true) (plain : v.isPlain = true) :
      Use x { x with view := v, picker := x.picker.restart }

/-- What the service has told stays until it tells more: no key touches the two catalogs. -/
theorem Use.catalogs {x y : Bench} (use : x.Use y) :
    y.catalog = x.catalog ∧ y.picker.catalog = x.picker.catalog := by
  cases use <;> exact ⟨rfl, rfl⟩

/-- What a delivery can do. -/
inductive Told (x : Bench) (d : Delivery) : Bench → Prop where
  | stay : Told x d x
  | rows {rs : List Record} (slot : d.slot = .load) (outcome : d.outcome = .ok (.records rs)) :
      Told x d (x.applyRows rs)
  | candidates {rs : List Record} (slot : d.slot = .candidates) (fresh : x.picker.generation = d.generation)
      (outcome : d.outcome = .ok (.records rs)) : Told x d { x with picker := x.picker.answered rs }
  | bulk {n : Nat} (slot : d.slot = .bulk) (outcome : d.outcome = .ok (.updated n)) :
      Told x d { x with marks := .empty }
  | saved : Told x d { x with view := .detail, picker := x.picker.restart }

/-! ## What is shown -/

/-- The list shows the rows, and the picker its candidates. Without a search the rows are the catalog. -/
structure Tidy (x : Bench) : Prop where
  list : x.list.Shows (x.rows.map x.kind.rowLabel)
  picker : x.picker.list.Shows (x.picker.candidates.map Record.title)
  catalog : x.search = "" → x.catalog = x.rows

variable {x y : Bench}

/-- New rows come with their labels. -/
theorem Tidy.rows (h : x.Tidy) (rs : List Record) :
    (x.list.setItems (rs.map x.kind.rowLabel)).Shows (rs.map x.kind.rowLabel) :=
  h.list.framed.shows_setItems _

/-- New candidates come with their labels. -/
theorem Tidy.candidates (h : x.Tidy) (rs : List Record) :
    (x.picker.list.setItems (rs.map Record.title)).Shows (rs.map Record.title) :=
  h.picker.framed.shows_setItems _

theorem Use.tidy (use : x.Use y) (h : x.Tidy) : y.Tidy := by
  cases use with
  | stay => exact h
  | turn | mark | prompt | aim => exact ⟨h.list, h.picker, h.catalog⟩
  | scroll moved =>
    rcases moved with rfl | rfl
    · exact ⟨h.list.up, h.picker, h.catalog⟩
    · exact ⟨h.list.down, h.picker, h.catalog⟩
  | refill =>
    refine ⟨h.rows _, h.picker, ?_⟩
    rintro rfl
    exact (List.filter_eq_self.2 fun r _ => Search.hit_empty r.title).symm
  | relate => exact ⟨h.list, h.candidates [], h.catalog⟩
  | ask => exact ⟨h.list, h.candidates _, h.catalog⟩
  | scrollPicker moved =>
    rcases moved with rfl | rfl
    · exact ⟨h.list, h.picker.up, h.catalog⟩
    · exact ⟨h.list, h.picker.down, h.catalog⟩
  | leave => exact ⟨h.list, h.candidates [], h.catalog⟩

/-- A delivery keeps the catalog, unless it is an answer that is taken without a search. -/
theorem Told.catalog_rows {d : Delivery} (told : x.Told d y) :
    y.catalog = x.catalog ∨
      ∃ rs, d.slot = .load ∧ d.outcome = .ok (.records rs) ∧ x.search = "" ∧ y.catalog = rs := by
  cases told with
  | stay | candidates | bulk | saved => exact .inl rfl
  | rows slot outcome =>
    unfold Bench.applyRows
    dsimp only
    split
    · next hsearch => exact .inr ⟨_, slot, outcome, String.isEmpty_iff.1 hsearch, rfl⟩
    · exact .inl rfl

theorem Told.tidy {d : Delivery} (told : x.Told d y) (h : x.Tidy) : y.Tidy := by
  cases told with
  | stay => exact h
  | @rows rs => exact ⟨h.rows rs, h.picker, fun hsearch => if_pos (String.isEmpty_iff.2 hsearch)⟩
  | @candidates rs =>
    refine ⟨h.list, ?_, h.catalog⟩
    unfold Picker.answered
    split
    · exact h.candidates rs
    · exact h.candidates rs
  | bulk => exact ⟨h.list, h.picker, h.catalog⟩
  | saved => exact ⟨h.list, h.candidates [], h.catalog⟩

end Bench

namespace Tab

open Bench

def bench (t : Tab) : Bench :=
  ⟨t.kind, t.view, t.search, t.marks, t.catalog, t.rows, t.list, t.picker⟩

/-! ## Keys in the list -/

theorem isPlain_listView (t : Tab) : t.listView.isPlain = true := by
  rcases listView_eq t with h | h
  · rw [h]; rfl
  · rw [h]; rfl

theorem bench_issue (t : Tab) (slot : Slot) (generation : Nat) (r : Request) :
    (t.issue slot generation r).1.bench = t.bench := by
  obtain ⟨_, _, h⟩ := issue_frame t slot generation r
  rw [h]
  rfl

theorem commands_issue (t : Tab) (slot : Slot) (generation : Nat) (r : Request) :
    (t.issue slot generation r).2 =
      if t.requests.isPending slot then [] else [⟨t.kind, slot, generation, r⟩] := by
  unfold issue
  split
  · rfl
  · rfl

theorem bench_refreshScopes (t : Tab) : t.refreshScopes.1.bench = t.bench := by
  obtain ⟨_, _, h⟩ := refreshScopes_frame t
  rw [h]
  rfl

variable {t : Tab}

theorem use_setSearch (hv : t.view.isList = true) (search : String) :
    t.bench.Use (t.setSearch search).1.bench := .refill hv (isPlain_listView { t with search })

theorem use_clearSearch (hv : t.view.isList = true) : t.bench.Use t.clearSearch.1.bench := by
  unfold clearSearch
  split
  · exact .stay
  · exact use_setSearch hv ""

theorem use_typeSearch (hv : t.view.isList = true) (k : Key) : t.bench.Use (t.typeSearch k).1.bench := by
  unfold typeSearch
  split
  · exact use_setSearch hv _
  · exact .stay

theorem use_openDetail (hv : t.view.isList = true) : t.bench.Use t.openDetail.1.bench := by
  unfold openDetail
  split
  · exact .stay
  · rw [bench_issue]
    exact .turn (View.isPicking_of_isList hv) rfl

theorem openDetail_of_selected {r : Record} (h : t.selected? = some r) :
    t.openDetail = { t with detail := some r, view := .detail }.issue .detail 0 (.get t.kind r.id) := by
  unfold openDetail
  rw [h]

theorem use_openAdd (hv : t.view.isList = true) : t.bench.Use t.openAdd.1.bench := by
  unfold openAdd
  split
  · exact .stay
  · split
    · exact .relate hv
    · rw [bench_refreshScopes]
      exact .turn (View.isPicking_of_isList hv) rfl

theorem use_pressToggle (hv : t.view.isList = true) (choice : ToggleChoice) (k : Key) :
    t.bench.Use (t.pressToggle choice k).1.bench := by
  unfold pressToggle
  split
  case h_5 =>
    dsimp only
    split
    · exact use_openAdd (t := { t with focus := .rows }) hv
    · exact .stay
  all_goals exact .stay

/-- Without marks the prompt does not open. -/
theorem use_openBulkPrompt (hv : t.view.isList = true) (field : BulkField) :
    t.bench.Use (t.openBulkPrompt field).1.bench := by
  unfold openBulkPrompt
  extract_lets supported
  split
  · exact .stay
  · split
    · exact .stay
    · next hmarked => exact .prompt hv (Bool.not_eq_true _ ▸ hmarked)

theorem use_pressRows (hv : t.view.isList = true) (k : Key) : t.bench.Use (t.pressRows k).1.bench := by
  unfold pressRows
  split
  · split
    · exact .stay
    · exact .scroll (.inl rfl)
  · exact .scroll (.inr rfl)
  · exact use_openDetail hv
  · split
    · exact use_setSearch hv _
    · exact .stay
  · split
    · exact .stay
    · exact use_setSearch hv _
  · exact use_clearSearch hv
  · exact .stay
  · exact .stay
  · exact use_openBulkPrompt hv _
  · exact use_openBulkPrompt hv _
  · split
    · exact .mark hv
    · exact use_clearSearch hv
  · split
    · split
      · exact .mark hv
      · exact .stay
    · exact use_typeSearch hv _
  · exact use_typeSearch hv _

theorem use_pressList (hv : t.view.isList = true) (k : Key) : t.bench.Use (t.pressList k).1.bench := by
  unfold pressList
  split
  · exact use_pressToggle hv _ k
  · exact use_pressRows hv k

theorem press_of_rows (he : t.editors = []) (hv : t.view.isList = true) (hf : t.focus = .rows)
    (k : Key) : t.press k = { t with error := none, notice := none }.pressRows k := by
  rcases View.eq_of_isList hv with hlist | hsearch
  · simp only [press, he, pressView, hlist, pressList, hf]
  · simp only [press, he, pressView, hsearch, pressList, hf]

theorem press_of_list (he : t.editors = []) (hv : t.view.isList = true) (k : Key) :
    t.press k = { t with error := none, notice := none }.pressList k := by
  rcases View.eq_of_isList hv with hlist | hsearch
  · simp only [press, he, pressView, hlist]
  · simp only [press, he, pressView, hsearch]

/-! ## Keys about one record -/

theorem use_openConfirm (hv : t.view = .detail) (action : ConfirmAction) (target : String) :
    t.bench.Use (t.openConfirm action target).1.bench := by
  unfold openConfirm
  split
  · exact .stay
  · exact .turn (congrArg View.isPicking hv) rfl

theorem use_pressDetail (hv : t.view = .detail) (k : Key) : t.bench.Use (t.pressDetail k).1.bench := by
  have turn {v : View} (plain : v.isPlain = true) : t.bench.Use { t.bench with view := v } :=
    .turn (congrArg View.isPicking hv) plain
  have closed : t.bench.Use t.closeDetail.1.bench := turn (isPlain_listView t)
  unfold pressDetail
  split
  · exact turn (isPlain_listView t)
  · split
    · split
      · unfold editDetail
        rw [bench_refreshScopes]
        exact turn (v := .edit) rfl
      · exact .stay
    · split
      · unfold archiveDetail
        split
        · exact .stay
        · exact use_openConfirm hv _ _
      · exact .stay
    · split
      · exact use_openConfirm hv _ _
      · exact .stay
    · rw [bench_issue]
      exact .stay
    · exact closed
    · exact closed
    · exact .stay

/-- A question leads back to the record that it is about. -/
theorem use_pressConfirm {action : ConfirmAction} {target : String}
    (hv : t.view = .confirm action target .detail) (k : Key) :
    t.bench.Use (t.pressConfirm action target .detail k).1.bench := by
  have no : t.bench.Use { t.bench with view := .detail } := .turn (congrArg View.isPicking hv) rfl
  have yes (r : Request) : t.bench.Use ({ t with view := .detail }.issue .confirm 0 r).1.bench := by
    rw [bench_issue]
    exact no
  unfold pressConfirm
  dsimp only
  split
  · exact yes _
  · exact yes _
  · exact no
  · exact no
  · exact no
  · exact .stay

/-! ## Keys in prompts, forms and editors -/

theorem use_sendBulk {field : BulkField} (hv : t.view = .bulkPrompt field) :
    t.bench.Use (t.sendBulk field).1.bench := by
  unfold sendBulk
  split
  · exact .stay
  · next edit _ =>
    have hbench := bench_issue t .bulk 0 (.bulkUpdate t.kind t.marks.toList edit)
    generalize t.issue .bulk 0 (.bulkUpdate t.kind t.marks.toList edit) = i at hbench
    dsimp only
    rw [← hbench]
    split
    · exact .stay
    · have hview : i.1.view = t.view := congrArg Bench.view hbench
      exact .turn (congrArg View.isPicking (hview.trans hv)) (isPlain_listView i.1)

theorem use_pressBulkPrompt {field : BulkField} (hv : t.view = .bulkPrompt field) (k : Key) :
    t.bench.Use (t.pressBulkPrompt field k).1.bench := by
  unfold pressBulkPrompt
  split
  · exact .turn (congrArg View.isPicking hv) (isPlain_listView t)
  · exact use_sendBulk hv
  · exact .stay
  · exact .stay
  · split
    · exact .stay
    · exact .stay

theorem bench_saveForm (t : Tab) : t.saveForm.1.bench = t.bench := by
  obtain ⟨_, _, h⟩ := saveForm_frame t
  rw [h]
  rfl

theorem use_cancelForm (hv : t.view.hasForm = true) : t.bench.Use t.cancelForm.bench := by
  unfold cancelForm
  dsimp only
  split
  · next hedit => exact .turn (congrArg View.isPicking hedit) rfl
  · next hdetails => exact .aim (congrArg View.isPicking hdetails)
  · next hedit hdetails =>
    have hadd : t.view = .add :=
      (View.eq_of_hasForm hv).resolve_right fun h => h.elim hedit hdetails
    exact .turn (congrArg View.isPicking hadd) (isPlain_listView _)

theorem bench_pressField (t : Tab) (f : Form) (k : Key) : (t.pressField f k).bench = t.bench := by
  obtain ⟨_, h⟩ := pressField_frame t f k
  rw [h]
  rfl

theorem use_pressForm (hv : t.view.hasForm = true) (hf : t.form.isSome = true) (k : Key) :
    t.bench.Use (t.pressForm k).1.bench := by
  unfold pressForm
  split
  · next hnone =>
    rw [hnone] at hf
    exact absurd hf Bool.false_ne_true
  · split
    · exact use_cancelForm hv
    · rw [bench_saveForm]
      exact .stay
    · exact .stay
    · exact .stay
    · exact .stay
    · exact .stay
    · rw [bench_pressField]
      exact .stay

theorem press_of_form (he : t.editors = []) (hv : t.view.hasForm = true) (k : Key) :
    t.press k = { t with error := none, notice := none }.pressForm k := by
  rcases View.eq_of_hasForm hv with hadd | hedit | hdetails
  · simp only [press, he, pressView, hadd]
  · simp only [press, he, pressView, hedit]
  · simp only [press, he, pressView, hdetails]

theorem bench_pressEditor (t : Tab) (e : Editor) (rest : List Editor) (k : Key) :
    (t.pressEditor e rest k).bench = t.bench := by
  obtain ⟨_, _, h⟩ := pressEditor_frame t e rest k
  rw [h]
  rfl

/-! ## Keys in the picker -/

theorem use_setPickerQuery {step : RelateStep} (hv : t.view = .relate step) (query : String) :
    t.bench.Use (t.setPickerQuery query).1.bench := by
  have asks : t.bench.Use { t.bench with view := .relate step, picker := (t.picker.setQuery query).asked } :=
    .ask (congrArg View.isPicking hv)
  rw [← hv] at asks
  exact asks

theorem use_pick {step : RelateStep} (hv : t.view = .relate step) : t.bench.Use (t.pick step).1.bench := by
  have picking : t.view.isPicking = true := congrArg View.isPicking hv
  unfold pick
  split
  · exact .stay
  · split
    · exact .ask picking
    · split
      · exact .stay
      · exact .aim picking

theorem use_leavePicker {step : RelateStep} (hv : t.view = .relate step) :
    t.bench.Use (t.leavePicker step).1.bench := by
  have picking : t.view.isPicking = true := congrArg View.isPicking hv
  unfold leavePicker
  split
  · exact .ask picking
  · exact .leave picking (isPlain_listView t)

theorem use_pressPicker {step : RelateStep} (hv : t.view = .relate step) (k : Key) :
    t.bench.Use (t.pressPicker step k).1.bench := by
  unfold pressPicker
  split
  · exact .scrollPicker (.inl rfl)
  · exact .scrollPicker (.inr rfl)
  · exact use_leavePicker hv
  · exact use_pick hv
  · split
    · exact .stay
    · exact use_setPickerQuery hv _
  · exact use_setPickerQuery hv ""
  · split
    · exact use_setPickerQuery hv _
    · exact .stay

theorem press_of_picker (he : t.editors = []) {step : RelateStep} (hv : t.view = .relate step)
    (hs : step ≠ .details) (k : Key) :
    t.press k = { t with error := none, notice := none }.pressPicker step k := by
  cases step with
  | source | target => simp only [press, he, pressView, hv]
  | details => exact absurd rfl hs

/-! ## Every event -/

theorem Coherent.use_pressView (h : t.Coherent) (k : Key) : t.bench.Use (t.pressView k).1.bench := by
  have form (hv : t.view.hasForm = true) : t.bench.Use (t.pressForm k).1.bench :=
    use_pressForm hv (h.consistent.form.2 hv) k
  unfold pressView
  split
  · next hv => exact use_pressList (congrArg View.isList hv) k
  · next hv => exact use_pressList (congrArg View.isList hv) k
  · next hv => exact use_pressDetail hv k
  · next hv => exact form (congrArg View.hasForm hv)
  · next hv => exact form (congrArg View.hasForm hv)
  · next hv =>
    obtain rfl := h.consistent.back _ _ _ hv
    exact use_pressConfirm hv k
  · next hv => exact use_pressBulkPrompt hv k
  · next hv => exact form (congrArg View.hasForm hv)
  · next hv => exact use_pressPicker hv k

theorem Coherent.use_press (h : t.Coherent) (k : Key) : t.bench.Use (t.press k).1.bench := by
  unfold Tab.press
  split
  · rw [bench_pressEditor]
    exact .stay
  · exact Coherent.use_pressView (t := { t with error := none, notice := none }) (h.congr rfl) k

theorem bench_activate (t : Tab) : t.activate.1.bench = t.bench := by
  obtain ⟨_, _, _, _, h⟩ := activate_frame t
  rw [h]
  rfl

theorem bench_refreshDetail (t : Tab) (r : Record) : (t.refreshDetail r).bench = t.bench := by
  obtain ⟨_, -, -, h⟩ := refreshDetail_frame t r
  rw [h]
  rfl

theorem bench_applyRows (t : Tab) (rs : List Record) : (t.applyRows rs).bench = t.bench.applyRows rs := by
  rw [applyRows_eq]
  rfl

theorem told_saved (t : Tab) (d : Delivery) (r : Record) :
    t.bench.Told d (t.saved d.generation r).1.bench := by
  unfold saved
  dsimp only
  split
  · exact .saved
  · have hbench := bench_refreshDetail { t with notice := some s!"saved {r.kind.noun} {r.title}" } r
    change t.bench.Told d (Tab.refreshDetail _ r).bench
    rw [hbench]
    exact .stay

theorem told_deliver (t : Tab) (d : Delivery) : t.bench.Told d (t.deliver d).1.bench := by
  unfold deliver
  split
  · exact .stay
  · next hstale =>
    split
    · exact .stay
    · next a outcome =>
      unfold applyAnswer
      split
      · next slot =>
        rw [bench_applyRows]
        exact .rows slot outcome
      · next slot =>
        have fresh : t.picker.generation = d.generation := by
          rw [slot] at hstale
          have hsame : ¬ (t.picker.generation != d.generation) = true := hstale
          simpa using hsame
        exact .candidates slot fresh outcome
      · rw [bench_refreshDetail]
        exact .stay
      · exact told_saved { t with requests := t.requests.set d.slot .idle } d _
      · next r _ =>
        have hbench := bench_refreshDetail
          { t with requests := t.requests.set d.slot .idle, notice := some ("archived " ++ r.title) } r
        change t.bench.Told d (Tab.refreshDetail _ r).bench
        rw [hbench]
        exact .stay
      · exact .stay
      · next slot => exact .bulk slot outcome
      · exact .stay
      · exact .stay
      · exact .stay

/-- The operator learns from the service and not the other way round. -/
theorem Coherent.catalogs_take (h : t.Coherent) (i : TabInput) :
    (t.take i).1.catalog = t.catalog ∧ (t.take i).1.picker.catalog = t.picker.catalog := by
  cases i with
  | activate =>
    have hbench := bench_activate t
    exact ⟨congrArg Bench.catalog hbench, congrArg (·.picker.catalog) hbench⟩
  | reload => exact ⟨rfl, rfl⟩
  | viewport height => exact ⟨rfl, rfl⟩
  | press k => exact (h.use_press k).catalogs

/-! ## Runs -/

theorem tidy_new (kind : Kind) : (new kind).bench.Tidy :=
  ⟨⟨rfl, ListWindow.framed_ofHeight _⟩, ⟨rfl, ListWindow.framed_ofHeight _⟩, fun _ => rfl⟩

theorem tidy_take (h : t.Coherent) (ht : t.bench.Tidy) (i : TabInput) : (t.take i).1.bench.Tidy := by
  cases i with
  | activate => exact (bench_activate t).symm ▸ ht
  | reload => exact ht
  | viewport height => exact ⟨ht.list.setHeight height, ht.picker.setHeight height, ht.catalog⟩
  | press k => exact (h.use_press k).tidy ht

/-- In every state that a tab can come to, the list shows the rows and the picker its candidates, and
without a search the rows are the catalog. -/
theorem tidy_after (kind : Kind) (es : List TabEvent) : (after kind es).bench.Tidy := by
  -- Coherence goes along, since it tells which handler has the key.
  have both := after_induction (motive := fun t => t.Coherent ∧ t.bench.Tidy)
    ⟨coherent_new kind, tidy_new kind⟩
    (fun t e h => by
      refine ⟨h.1.handle e, ?_⟩
      cases e with
      | input i => exact tidy_take h.1 h.2 i
      | deliver d => exact (told_deliver t d).tidy h.2) es
  exact both.2

end Tab

end RecordDesk
