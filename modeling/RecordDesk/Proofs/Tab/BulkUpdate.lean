import Mathlib.Data.List.Forall2
import Mathlib.Data.List.Perm.Basic
import Mathlib.Data.List.Sort
import RecordDesk.Proofs.Tab.InFlight
import RecordDesk.Proofs.Tab.LocalFilter
import RecordDesk.Proofs.Tab.WorkQueue

/-!
What a bulk edit does to the store. Enter in the prompt issues one update, on whose answer the rows are queried, and
then all is done. The records of the kind whose ids are marked have the edit in one of their label sets; nothing else
in them is touched, and no other record is (`bulk_edit_touches_marked`). Marks count by their ids alone: it does not
matter whether the rows show their records, and those whose records are gone are passed over.
-/

namespace RecordDesk

/-- Nothing is pending where no slot is. -/
theorem Requests.anyPending_eq_false_iff {r : Requests} :
    r.anyPending = false ↔ ∀ slot, r.isPending slot = false := by
  have hall (slot : Slot) : slot ∈ Slot.all := by cases slot <;> decide
  unfold anyPending
  simp only [List.any_eq_false, Bool.not_eq_true]
  exact ⟨fun h slot => h slot (hall slot), fun h slot _ => h slot⟩

namespace Record

def labels (r : Record) : BulkField → NameSet
  | .tags => r.tags
  | .scopes => r.scopes

def withLabels (r : Record) (field : BulkField) (s : NameSet) : Record :=
  match field with
  | .tags => { r with tags := s }
  | .scopes => { r with scopes := s }

@[simp] theorem labels_withLabels (r : Record) (field : BulkField) (s : NameSet) :
    (r.withLabels field s).labels field = s := by
  cases field <;> rfl

@[simp] theorem withLabels_withLabels (r : Record) (field : BulkField) (s s' : NameSet) :
    (r.withLabels field s).withLabels field s' = r.withLabels field s' := by
  cases field <;> rfl

end Record

namespace BulkEdit

/-- What an edit makes of a label set: it adds its values, takes them out, or puts them in place of all. -/
def Turns (e : BulkEdit) (old new : NameSet) : Prop :=
  match e.action with
  | .add => ∀ x, x ∈ new ↔ x ∈ old ∨ x ∈ e.values
  | .remove => ∀ x, x ∈ new ↔ x ∈ old ∧ x ∉ e.values
  | .set => ∀ x, x ∈ new ↔ x ∈ e.values

/-- The second record is the first one with the edit in the label set that it is for, and nowhere else. -/
structure Edits (e : BulkEdit) (r r' : Record) : Prop where
  labels : e.Turns (r.labels e.field) (r'.labels e.field)
  rest : r' = r.withLabels e.field (r'.labels e.field)

/-- The second store has the edit in the records of a kind that are marked, and is otherwise the first one, but for
what is written into its log. -/
structure Sweeps (e : BulkEdit) (kind : Kind) (marks : NameSet) (s s' : Store) : Prop where
  own : List.Forall₂ (fun r r' => (r.id ∈ marks → e.Edits r r') ∧ (r.id ∉ marks → r' = r))
    (s.records.get kind) (s'.records.get kind)
  others : ∀ k, k ≠ kind → s'.records.get k = s.records.get k
  rest : s' = { s with records := s'.records, calls := s'.calls }

/-! ## One record -/

theorem turns_apply (e : BulkEdit) (s : NameSet) : e.Turns s (e.apply s) := by
  obtain ⟨action, field, values⟩ := e
  cases action with
  | add => exact fun x => NameSet.mem_insertAll
  | remove => exact fun x => by simp [apply, NameSet.mem_filter]
  | set => exact fun x => by simp [apply, NameSet.ofList, NameSet.mem_insertAll, NameSet.not_mem_empty]

/-- The second time an edit has nothing left to do. -/
theorem Turns.apply_eq {e : BulkEdit} {old new : NameSet} (h : e.Turns old new) : e.apply new = new := by
  have hagain := e.turns_apply new
  refine NameSet.ext_mem fun x => ?_
  unfold Turns at h hagain
  cases haction : e.action with
  | add => simp only [haction] at h hagain; rw [hagain, h]; tauto
  | remove => simp only [haction] at h hagain; rw [hagain, h]; tauto
  | set => simp only [haction] at h hagain; rw [hagain, h]

theorem edited_eq (e : BulkEdit) (r : Record) :
    Store.edited e r = r.withLabels e.field (e.apply (r.labels e.field)) := by
  obtain ⟨action, field, values⟩ := e
  cases field <;> rfl

theorem edits_edited (e : BulkEdit) (r : Record) : e.Edits r (Store.edited e r) := by
  rw [edited_eq]
  refine ⟨?_, ?_⟩
  · rw [Record.labels_withLabels]
    exact e.turns_apply _
  · rw [Record.labels_withLabels]

theorem edited_edited (e : BulkEdit) (r : Record) : Store.edited e (Store.edited e r) = Store.edited e r := by
  simp only [edited_eq, Record.labels_withLabels, Record.withLabels_withLabels, (e.turns_apply _).apply_eq]

end BulkEdit

/-! ## The store -/

namespace Store

theorem swept_swept (ids : List String) (e : BulkEdit) (r : Record) : swept ids e (swept ids e r) = swept ids e r := by
  have hid := id_swept ids e r
  unfold swept at hid ⊢
  rw [hid]
  split
  · exact e.edited_edited r
  · rfl

/-- Where no two records have the same id, as many are edited as ids have a record. -/
theorem length_filter_marked {s : Store} {kind : Kind} (h : ((s.records.get kind).map Record.id).Nodup)
    {ids : List String} (hids : ids.Nodup) :
    ((s.records.get kind).filter fun r => ids.contains r.id).length =
      (ids.filter fun id => (s.find? kind id).isSome).length := by
  have hperm : (((s.records.get kind).filter fun r => ids.contains r.id).map Record.id).Perm
      (ids.filter fun id => (s.find? kind id).isSome) := by
    refine (List.perm_ext_iff_of_nodup ?_ (hids.filter _)).2 fun id => ?_
    · exact h.sublist (List.filter_sublist.map Record.id)
    · rw [List.mem_map, List.mem_filter, find?, List.find?_isSome]
      constructor
      · rintro ⟨r, hr, rfl⟩
        obtain ⟨hmem, hmarked⟩ := List.mem_filter.1 hr
        exact ⟨List.contains_iff_mem.1 hmarked, r, hmem, beq_self_eq_true _⟩
      · rintro ⟨hid, r, hmem, hr⟩
        obtain rfl := beq_iff_eq.1 hr
        exact ⟨r, List.mem_filter.2 ⟨hmem, List.contains_iff_mem.2 hid⟩, rfl⟩
  rw [← hperm.length_eq, List.length_map]

theorem sweeps_map {s s' : Store} {kind : Kind} {marks : NameSet} {e : BulkEdit}
    (h : s' = { s with
      records := s.records.set kind ((s.records.get kind).map (swept marks.toList e)), calls := s'.calls }) :
    e.Sweeps kind marks s s' where
  own := by
    rw [h]
    dsimp only
    rw [PerKind.get_set_self, List.forall₂_map_right_iff, List.forall₂_same]
    intro r _
    unfold swept
    refine ⟨fun hr => ?_, fun hr => ?_⟩
    · rw [if_pos (List.contains_iff_mem.2 hr)]
      exact e.edits_edited r
    · rw [if_neg (mt List.contains_iff_mem.1 hr)]
  others k hk := by
    rw [h]
    exact PerKind.get_set_ne hk _ _
  rest := by rw [h]

end Store

/-! ## The tab -/

namespace Tab

/-- Enter in the prompt sends the update for the marked records, and goes back to the list. -/
theorem press_enter_of_prompt {t : Tab} (he : t.editors = []) {field : BulkField} (hv : t.view = .bulkPrompt field)
    {e : BulkEdit} (hread : BulkEdit.read field t.prompt = .ok e) (hfree : t.requests.isPending .bulk = false) :
    t.press .enter =
      ({ t with
          error := none, notice := none, prompt := "", view := t.listView,
          requests := t.requests.set .bulk .pending },
        [⟨t.kind, .bulk, 0, .bulkUpdate t.kind t.marks.toList e⟩]) := by
  have hsend : t.press .enter = { t with error := none, notice := none }.sendBulk field := by
    simp only [press, he, pressView, hv, pressBulkPrompt]
  have hissue := issue_of_free (t := { t with error := none, notice := none }) hfree 0
    (.bulkUpdate t.kind t.marks.toList e)
  rw [hsend]
  unfold sendBulk
  simp only [hread, hissue]
  rfl

/-- What is said of a bulk update that went through. -/
def updatedNotice (n : Nat) : String := s!"updated {n} " ++ if n = 1 then "record" else "records"

/-- The tab after Enter in the prompt and the report on `n` records. -/
def reported (t : Tab) (n : Nat) : Tab :=
  { t with
    error := none, prompt := "", view := t.listView, marks := .empty, notice := some (updatedNotice n),
    requests := (t.requests.set .bulk .pending).set .bulk .idle }

/-- The tab after the answer to the query that follows. -/
def refilled (t : Tab) (rs : List Record) : Tab :=
  { t.reload.1 with requests := t.reload.1.requests.set .load .idle }.applyRows rs

/-- The answer to the newest query for the rows shows in the rows only. -/
theorem deliver_rows (t : Tab) (rs : List Record) :
    t.reload.1.deliver ⟨t.kind, .load, t.generation + 1, .ok (.records rs)⟩ = (t.refilled rs, []) := by
  have hnew : t.reload.1.isStale .load (t.generation + 1) = false := bne_self_eq_false _
  exact deliver_ok (d := ⟨t.kind, .load, t.generation + 1, .ok (.records rs)⟩) hnew rfl

/-- The part of a tab that the rows have nothing to do with. -/
theorem kept_refilled (t : Tab) (rs : List Record) :
    (t.refilled rs).marks = t.marks ∧ (t.refilled rs).notice = t.notice ∧
      (t.refilled rs).requests = (t.requests.set .load .pending).set .load .idle := by
  unfold refilled applyRows
  split
  · exact ⟨rfl, rfl, rfl⟩
  · exact ⟨rfl, rfl, rfl⟩

theorem anyPending_refilled {t : Tab} (h : t.requests.anyPending = false) (n : Nat) (rs : List Record) :
    ((t.reported n).refilled rs).requests.anyPending = false := by
  have hfreed {r : Requests} {slot other : Slot} (hr : r.isPending other = false) :
      ((r.set slot .pending).set slot .idle).isPending other = false := by
    by_cases hslot : other = slot
    · rw [hslot, Dialogue.isPending_set_self]
      rfl
    · rw [Dialogue.isPending_set_ne hslot, Dialogue.isPending_set_ne hslot, hr]
  obtain ⟨-, -, hrequests⟩ := (t.reported n).kept_refilled rs
  rw [hrequests, Requests.anyPending_eq_false_iff]
  exact fun slot => hfreed (hfreed (Requests.anyPending_eq_false_iff.1 h slot))

end Tab

namespace WorkQueue

/-- A key has been pressed, and what it issues is to be run. -/
def pressed (t : Tab) (k : Key) (s : Store) : WorkQueue Store := ⟨(t.press k).1, (t.press k).2, s⟩

/-- Enter in the prompt takes two calls: the update, and the query that follows it. -/
theorem run_pressed {t : Tab} (he : t.editors = []) {field : BulkField} (hv : t.view = .bulkPrompt field)
    {e : BulkEdit} (hread : BulkEdit.read field t.prompt = .ok e) (hfree : t.requests.isPending .bulk = false)
    {s : Store} (hs : s.failures = []) :
    ∃ (rs : List Record) (s' : Store),
      (pressed t .enter s).run Store.service 2 = ⟨(t.reported ((s.records.get t.kind).filter fun r =>
        t.marks.toList.contains r.id).length).refilled rs, [], s'⟩ ∧
      s' = { s with
        records := s.records.set t.kind ((s.records.get t.kind).map (Store.swept t.marks.toList e)),
        calls := s'.calls } := by
  have hworking (op : Operation) {s' : Store} (hs' : s'.failures = []) : s'.failure? op = none := by
    unfold Store.failure?
    rw [hs']
    rfl
  have hupdate := Store.ask_bulkUpdate_of_working (hworking .bulkUpdate hs) t.kind t.marks.toList e
  generalize hn : ((s.records.get t.kind).filter fun r => t.marks.toList.contains r.id).length = n at hupdate ⊢
  generalize hs₁ : (s.logged .bulkUpdate s!"{t.kind.name} x{t.marks.toList.length}").setRecords t.kind
    ((s.records.get t.kind).map (Store.swept t.marks.toList e)) = s₁ at hupdate
  have hfirst : (pressed t .enter s).step Store.service =
      ⟨(t.reported n).reload.1, (t.reported n).reload.2, s₁⟩ := by
    unfold pressed
    rw [Tab.press_enter_of_prompt he hv hread hfree, step_cons rfl]
    dsimp only
    rw [hupdate]
    rfl
  generalize t.reported n = u at hfirst ⊢
  have hfailures : s₁.failures = [] := by
    rw [← hs₁]
    exact hs
  have hquery := Store.ask_query_of_working (hworking .query hfailures) u.kind ⟨u.search, u.includeArchived⟩
  have hlog := Store.store_ask_query s₁ u.kind ⟨u.search, u.includeArchived⟩
  refine ⟨s₁.hits u.kind ⟨u.search, u.includeArchived⟩, s₁.logged .query (u.kind.name ++ " " ++ Text.quoted u.search),
    ?_, by rw [← hs₁]; rfl⟩
  show ((pressed t .enter s).step Store.service).step Store.service = _
  rw [hfirst, step_cons rfl]
  dsimp only
  rw [hquery, hlog, Command.delivery, Tab.deliver_rows]
  rfl

/-- Nothing is under way, the prompt for a field is open, and its text reads as an edit. -/
structure Prompted (t : Tab) (field : BulkField) (e : BulkEdit) : Prop where
  view : t.view = .bulkPrompt field
  reads : BulkEdit.read field t.prompt = .ok e
  settled : t.requests.anyPending = false

/-- Enter in the prompt, on a store that no two records of the kind have the same id in and no operation fails in,
leads to two calls and then to rest. The records whose ids are marked have the edit in the label set it is for, and
all else in the store is as it was; no marks are left, and the notice says how many of them have a record there. The
same marks and the same text change nothing when they come again. -/
theorem bulk_edit_touches_marked (kind : Kind) {es : List TabEvent} {field : BulkField} {e : BulkEdit}
    (hprompted : Prompted (Tab.after kind es) field e) {s : Store}
    (hdistinct : ((s.records.get kind).map Record.id).Nodup) (hworking : s.failures = []) :
    let t := Tab.after kind es
    let q := (pressed t .enter s).run Store.service 2
    q.commands = [] ∧ q.tab.requests.anyPending = false ∧
      e.field = field ∧ e.Sweeps kind t.marks s q.state ∧
      q.tab.marks = .empty ∧
      q.tab.notice = some (Tab.updatedNotice (t.marks.toList.filter fun id => (s.find? kind id).isSome).length) ∧
      ∀ es' : List TabEvent, Prompted (Tab.after kind es') field e → (Tab.after kind es').marks = t.marks →
        let q' := (pressed (Tab.after kind es') .enter q.state).run Store.service 2
        q'.commands = [] ∧ q'.state = { q.state with calls := q'.state.calls } := by
  have outcome {es : List TabEvent} (hp : Prompted (Tab.after kind es) field e) {s : Store} (hs : s.failures = []) :=
    have hc := Tab.coherent_after kind es
    have hform : (Tab.after kind es).form = none := by
      have hsuits := hc.suits
      rwa [hp.view] at hsuits
    run_pressed (hc.editors_nil hform) hp.view hp.reads (Requests.anyPending_eq_false_iff.1 hp.settled .bulk) hs
  intro t q
  obtain ⟨rs, s', hrun, hs'⟩ := outcome hprompted hworking
  have hq : q = _ := hrun
  have hkind : t.kind = kind := Tab.kind_after kind es
  rw [hkind] at hs'
  have hcount := Store.length_filter_marked hdistinct t.marks.nodup
  obtain ⟨hmarks, hnotice, -⟩ := (t.reported ((s.records.get t.kind).filter fun r =>
    t.marks.toList.contains r.id).length).kept_refilled rs
  rw [hq]
  refine ⟨rfl, Tab.anyPending_refilled hprompted.settled _ rs, field_of_read hprompted.reads,
    Store.sweeps_map hs', hmarks, ?_, fun es' hp' hsame => ?_⟩
  · rw [hnotice, ← hcount, hkind]
    rfl
  · have hfailures : s'.failures = [] := by
      rw [hs']
      exact hworking
    obtain ⟨rs', s'', hrun', hs''⟩ := outcome hp' hfailures
    intro q'
    have hq' : q' = _ := hrun'
    rw [hq']
    refine ⟨rfl, ?_⟩
    have hagain : s'.records.set kind ((s'.records.get kind).map (Store.swept t.marks.toList e)) = s'.records := by
      rw [hs']
      dsimp only
      rw [PerKind.get_set_self, PerKind.set_set, List.map_map]
      exact congrArg _ (List.map_congr_left fun r _ => Store.swept_swept _ e r)
    rwa [Tab.kind_after, hsame, hagain] at hs''

/-- Two jobs are marked, and a tag for them typed in. -/
def taggingBoth : List TabEvent :=
  [.input .activate,
    .deliver ⟨.jobs, .load, 1, .ok (.records [.named .jobs "job-1" "paint", .named .jobs "job-2" "print"])⟩,
    .input (.press (.char ' ')), .input (.press .down), .input (.press (.char ' ')), .input (.press (.ctrl 'b')),
    .input (.press (.char '+')), .input (.press (.char 'x'))]

/-- A store that has the first of them, and another job. -/
def paintAndPack : Store := Store.empty.setRecords .jobs [.named .jobs "job-1" "paint", .named .jobs "job-3" "pack"]

theorem bulk_edit_touches_paint :
    let t := Tab.after .jobs taggingBoth
    let q := (pressed t .enter paintAndPack).run Store.service 2
    Prompted t .tags ⟨.add, .tags, ["x"]⟩ ∧ t.marks.toList = ["job-1", "job-2"] ∧
      q.commands = [] ∧ BulkEdit.Sweeps ⟨.add, .tags, ["x"]⟩ .jobs t.marks paintAndPack q.state ∧
      (q.state.records.get .jobs).map (·.tags.toList) = [["x"], []] ∧ q.tab.marks = .empty ∧
      q.tab.notice = some "updated 1 record" ∧
      ((pressed t .enter q.state).run Store.service 2).state.records = q.state.records := by
  have hprompted : Prompted (Tab.after .jobs taggingBoth) .tags ⟨.add, .tags, ["x"]⟩ := ⟨rfl, rfl, rfl⟩
  obtain ⟨hrun, -, -, hsweeps, hmarks, hnotice, hagain⟩ :=
    bulk_edit_touches_marked .jobs hprompted (s := paintAndPack) (by decide) rfl
  have hsame := congrArg Store.records (hagain taggingBoth hprompted rfl).2
  exact ⟨hprompted, rfl, hrun, hsweeps, rfl, hmarks, hnotice, hsame⟩

end WorkQueue

end RecordDesk
