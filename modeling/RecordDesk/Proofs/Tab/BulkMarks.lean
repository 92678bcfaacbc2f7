import Mathlib.Data.List.Induction
import RecordDesk.Proofs.Tab.Bench
import RecordDesk.Proofs.Tab.Convergence

/-!
Which records a bulk update goes to: those that are marked when it is sent, each once and in ascending order
(`bulk_names_marked`). That there are any marks is looked at when the prompt opens, and not again when its
text is sent. In between keys leave the marks alone, but the answer to an earlier bulk update takes them
away, and then the update names no record at all (`bulk_of_nothing`).
-/

namespace RecordDesk

/-- The event is the answer to a bulk update that went through. -/
def TabEvent.reportsBulk : TabEvent → Bool
  | .deliver ⟨_, .bulk, _, .ok (.updated _)⟩ => true
  | _ => false

theorem TabEvent.reportsBulk_iff {d : Delivery} :
    (TabEvent.deliver d).reportsBulk = true ↔ d.slot = .bulk ∧ ∃ n, d.outcome = .ok (.updated n) := by
  obtain ⟨tab, slot, generation, outcome⟩ := d
  constructor
  · intro h
    unfold TabEvent.reportsBulk at h
    split at h
    · next heq =>
      cases heq
      exact ⟨rfl, _, rfl⟩
    · cases h
  · rintro ⟨hslot, n, houtcome⟩
    obtain rfl : slot = .bulk := hslot
    obtain rfl : outcome = _ := houtcome
    rfl

namespace Tab

open TabEvent

/-! ## The command -/

/-- A bulk update is sent from its prompt. -/
theorem prompt_of_bulkUpdate {t : Tab} {e : TabEvent} {c : Command} (hc : c ∈ (t.handle e).2) {kind : Kind}
    {ids : List String} {edit : BulkEdit} (hr : c.request = .bulkUpdate kind ids edit) :
    e = .input (.press .enter) ∧ t.editors = [] ∧ ∃ field, t.view = .bulkPrompt field := by
  rcases command_cases hc with rfl | rfl | ⟨k, rfl⟩
  · cases hr
  · cases hr
  · obtain ⟨⟨-, sends⟩, hmodal⟩ := deed_press t k
    change c ∈ (t.press k).2 at hc
    have he : t.editors = [] := by
      by_contra hopen
      rw [hmodal hopen] at hc
      cases hc
    generalize (t.press k).2 = cs at sends hc
    cases sends with
    | nothing => cases hc
    | @bulk field _ _ _ key view =>
      subst key
      exact ⟨rfl, he, field, view⟩
    | save key saves =>
      obtain rfl := List.mem_singleton.1 hc
      cases saves <;> cases hr
    | @confirm action =>
      obtain rfl := List.mem_singleton.1 hc
      cases action <;> cases hr
    | rows | candidates | record | scopes =>
      obtain rfl := List.mem_singleton.1 hc
      cases hr

theorem eq_of_mem_sendBulk {t : Tab} {field : BulkField} {c : Command} (hc : c ∈ (t.sendBulk field).2) :
    ∃ edit, c = ⟨t.kind, .bulk, 0, .bulkUpdate t.kind t.marks.toList edit⟩ := by
  unfold sendBulk at hc
  split at hc
  · cases hc
  · next edit _ =>
    cases hp : t.requests.isPending .bulk with
    | false =>
      rw [issue_of_free hp] at hc
      exact ⟨edit, List.mem_singleton.1 hc⟩
    | true =>
      unfold issue at hc
      rw [if_pos hp] at hc
      cases hc

/-- It names the records that are marked then. -/
theorem marked_of_bulkUpdate {t : Tab} {e : TabEvent} {c : Command} (hc : c ∈ (t.handle e).2) {kind : Kind}
    {ids : List String} {edit : BulkEdit} (hr : c.request = .bulkUpdate kind ids edit) :
    kind = t.kind ∧ ids = t.marks.toList := by
  obtain ⟨rfl, he, field, hv⟩ := prompt_of_bulkUpdate hc hr
  have hpress : t.press .enter = { t with error := none, notice := none }.sendBulk field := by
    simp only [press, he, pressView, hv, pressBulkPrompt]
  change c ∈ (t.press .enter).2 at hc
  rw [hpress] at hc
  obtain ⟨edit', rfl⟩ := eq_of_mem_sendBulk hc
  cases hr
  exact ⟨rfl, rfl⟩

/-! ## The prompt -/

/-- A key that leads to an open prompt keeps the marks; a prompt that it opens has some. -/
theorem prompt_of_use {x y : Bench} (use : x.Use y) {field : BulkField} (hv : y.view = .bulkPrompt field) :
    y.marks = x.marks ∧
      (x.view = .bulkPrompt field ∨ x.view.isList = true ∧ x.marks.isEmpty = false) := by
  cases use with
  | stay | scroll | scrollPicker => exact ⟨rfl, .inl hv⟩
  | prompt view marked => exact ⟨rfl, .inr ⟨view, marked⟩⟩
  | mark view =>
    have hlist : x.view.isList = false := congrArg View.isList hv
    exact absurd (hlist.symm.trans view) Bool.false_ne_true
  | turn _ plain | refill _ plain | leave _ plain =>
    obtain rfl := hv
    exact absurd plain Bool.false_ne_true
  | relate | ask | aim => cases hv

/-- Of all deliveries only the report on a bulk update touches the marks: it takes them away. -/
theorem marks_deliver (t : Tab) (d : Delivery) :
    (t.deliver d).1.marks = if (TabEvent.deliver d).reportsBulk then .empty else t.marks := by
  by_cases hreport : (TabEvent.deliver d).reportsBulk = true
  · rw [if_pos hreport]
    obtain ⟨hslot, n, houtcome⟩ := reportsBulk_iff.1 hreport
    rw [deliver_ok (hslot ▸ isStale_of_isGated rfl t d.generation) houtcome, hslot]
    rfl
  · rw [if_neg hreport]
    have told := told_deliver t d
    change (t.deliver d).1.bench.marks = t.bench.marks
    generalize (t.deliver d).1.bench = y at told
    cases told with
    | stay | rows | candidates | saved => rfl
    | bulk slot outcome => exact absurd (reportsBulk_iff.2 ⟨slot, _, outcome⟩) hreport

/-- A delivery opens no prompt. -/
theorem prompt_of_deliver {t : Tab} {d : Delivery} {field : BulkField}
    (hv : (t.deliver d).1.view = .bulkPrompt field) : t.view = .bulkPrompt field := by
  have told := told_deliver t d
  change (t.deliver d).1.bench.view = _ at hv
  change t.bench.view = _
  generalize (t.deliver d).1.bench = y at told hv
  cases told with
  | stay | rows | candidates | bulk => exact hv
  | saved => cases hv

/-- Where a prompt is open after an event, it was open before, or a key opens it now, over some marks. The
event keeps the marks, unless it is the report on a bulk update. -/
theorem prompt_handle {t : Tab} (h : t.Coherent) (e : TabEvent) {field : BulkField}
    (hv : (t.handle e).1.view = .bulkPrompt field) :
    (t.handle e).1.marks = (if e.reportsBulk then .empty else t.marks) ∧
      (t.view = .bulkPrompt field ∨
        ∃ k, e = .input (.press k) ∧ t.view.isList = true ∧ t.marks.isEmpty = false) := by
  cases e with
  | deliver d => exact ⟨marks_deliver t d, .inl (prompt_of_deliver hv)⟩
  | input i =>
    cases i with
    | activate =>
      have hbench := bench_activate t
      have hview : t.activate.1.view = t.view := congrArg Bench.view hbench
      exact ⟨congrArg Bench.marks hbench, .inl (hview.symm.trans hv)⟩
    | reload => exact ⟨rfl, .inl hv⟩
    | viewport height => exact ⟨rfl, .inl hv⟩
    | press k =>
      obtain ⟨hmarks, hopen⟩ := prompt_of_use (h.use_press k) hv
      exact ⟨hmarks, hopen.imp id fun ⟨hlist, hmarked⟩ => ⟨k, rfl, hlist, hmarked⟩⟩

/-! ## Runs -/

/-- The prompt for a field was opened, by a key in the list and over the marks `marks`, after all but the
last events `es₁`; and since then it has been open. -/
structure PromptOpen (kind : Kind) (es es₁ : List TabEvent) (field : BulkField) (marks : NameSet) : Prop where
  opened : ∃ es₀ k, es = es₀ ++ .input (.press k) :: es₁ ∧ (after kind es₀).view.isList = true ∧
    (after kind es₀).marks = marks ∧
    ∀ fs, fs <+: es₁ → (after kind (es₀ ++ .input (.press k) :: fs)).view = .bulkPrompt field
  marked : marks.isEmpty = false

/-- What has been so since an event, is so after one event more. -/
theorem since_concat {kind : Kind} {es₀ es₁ : List TabEvent} {e₀ e : TabEvent} {motive : Tab → Prop}
    (since : ∀ fs, fs <+: es₁ → motive (after kind (es₀ ++ e₀ :: fs)))
    (now : motive ((after kind (es₀ ++ e₀ :: es₁)).handle e).1) :
    ∀ fs, fs <+: es₁ ++ [e] → motive (after kind (es₀ ++ e₀ :: fs)) := by
  intro fs hfs
  rcases List.prefix_concat_iff.1 hfs with rfl | hfs
  · have hend := after_concat kind (es₀ ++ e₀ :: es₁) e
    rw [List.append_assoc, List.cons_append] at hend
    rw [hend]
    exact now
  · exact since fs hfs

/-- An open prompt has been opened over some marks, and these are still there, unless a bulk update has been
reported since. -/
theorem exists_promptOpen {kind : Kind} {es : List TabEvent} {field : BulkField}
    (hv : (after kind es).view = .bulkPrompt field) :
    ∃ es₁ marks, PromptOpen kind es es₁ field marks ∧
      (after kind es).marks = if es₁.any TabEvent.reportsBulk then .empty else marks := by
  induction es using List.reverseRecOn with
  | nil => cases hv
  | append_singleton es e ih =>
    rw [after_concat] at hv ⊢
    obtain ⟨hmarks, hopen | ⟨k, rfl, hlist, hmarked⟩⟩ := prompt_handle (coherent_after kind es) e hv
    · obtain ⟨es₁, marks, ⟨⟨es₀, k, rfl, hlist, rfl, hsince⟩, hmarked⟩, hkept⟩ := ih hopen
      have hstill := since_concat (motive := fun t => t.view = .bulkPrompt field) hsince hv
      refine ⟨es₁ ++ [e], _, ⟨⟨es₀, k, ?_, hlist, rfl, hstill⟩, hmarked⟩, ?_⟩
      · rw [List.append_assoc, List.cons_append]
      · rw [hmarks, hkept, List.any_append, List.any_cons, List.any_nil, Bool.or_false]
        cases e.reportsBulk with
        | true => rw [if_pos rfl, Bool.or_true, if_pos rfl]
        | false => rw [if_neg Bool.false_ne_true, Bool.or_false]
    · -- The key has just opened it.
      refine ⟨[], _, ⟨⟨es, k, rfl, hlist, rfl, fun fs hfs => ?_⟩, hmarked⟩, hmarks⟩
      obtain rfl := List.prefix_nil.1 hfs
      rw [after_concat]
      exact hv

/-- In any run: a bulk update goes to the records that are marked when it is sent, each once and in ascending
order. They are the ones over which its prompt was opened, at least one; unless an earlier bulk update was
reported while the prompt was open, and then they are none. -/
theorem bulk_names_marked (kind : Kind) {es : List TabEvent} {e : TabEvent} {c : Command}
    (hc : c ∈ ((after kind es).handle e).2) {target : Kind} {ids : List String} {edit : BulkEdit}
    (hr : c.request = .bulkUpdate target ids edit) :
    target = kind ∧ ids = (after kind es).marks.toList ∧ ids.Pairwise (· < ·) ∧
      ∃ es₁ field marks, PromptOpen kind es es₁ field marks ∧
        ids = if es₁.any TabEvent.reportsBulk then [] else marks.toList := by
  obtain ⟨rfl, rfl⟩ := marked_of_bulkUpdate hc hr
  obtain ⟨-, -, field, hv⟩ := prompt_of_bulkUpdate hc hr
  obtain ⟨es₁, marks, hopen, hkept⟩ := exists_promptOpen hv
  refine ⟨kind_after kind es, rfl, (after kind es).marks.ascending, es₁, field, marks, hopen, ?_⟩
  rw [hkept]
  split
  · rfl
  · rfl

/-- A job is marked and a tag for it typed in. -/
def taggingJob : List TabEvent :=
  [.input .activate, .deliver ⟨.jobs, .load, 1, .ok (.records [.named .jobs "job-1" "paint"])⟩,
    .input (.press (.char ' ')), .input (.press (.ctrl 'b')), .input (.press (.char '+')),
    .input (.press (.char 'x'))]

theorem bulk_names_taggingJob :
    ∃ c edit, c ∈ ((after .jobs taggingJob).handle (.input (.press .enter))).2 ∧
      c.request = .bulkUpdate .jobs ["job-1"] edit ∧
      ∃ es₁ field marks, PromptOpen .jobs taggingJob es₁ field marks ∧
        ["job-1"] = if es₁.any TabEvent.reportsBulk then [] else marks.toList := by
  have hsent : ((after .jobs taggingJob).handle (.input (.press .enter))).2 =
      [⟨.jobs, .bulk, 0, .bulkUpdate .jobs ["job-1"] ⟨.add, .tags, ["x"]⟩⟩] := rfl
  have hmem := hsent ▸ List.mem_singleton_self _
  obtain ⟨-, -, -, hopen⟩ := bulk_names_marked .jobs hmem rfl
  exact ⟨_, _, hmem, rfl, hopen⟩

/-- The prompt is opened again for the job, and a second tag typed in, before the first tag is known to
have been added. -/
def taggingTwice : List ExchangeEvent :=
  [.input .activate, .call 0, .deliver 0, .input (.press (.char ' ')), .input (.press (.ctrl 'b')),
    .input (.press (.char '+')), .input (.press (.char 'x')), .input (.press .enter),
    .input (.press (.ctrl 'b')), .input (.press (.char '+')), .input (.press (.char 'y')), .call 1,
    .deliver 1]

/-- The second tag goes to no record. -/
theorem bulk_of_nothing :
    (¬ ∀ (kind : Kind) (s : Store) (es : List ExchangeEvent) (i : TabInput) (c : Command) (target : Kind)
        (ids : List String) (edit : BulkEdit), c ∈ ((Exchange.run kind s es).tab.take i).2 →
        c.request = .bulkUpdate target ids edit → ids ≠ []) ∧
      ((Exchange.run .jobs Exchange.oneJob taggingTwice).tab.press .enter).2.map (·.request.describe) =
        ["bulk update jobs x0"] := by
  refine ⟨fun h => ?_, rfl⟩
  have hsent : ((Exchange.run .jobs Exchange.oneJob taggingTwice).tab.take (.press .enter)).2 =
      [⟨.jobs, .bulk, 0, .bulkUpdate .jobs [] ⟨.add, .tags, ["y"]⟩⟩] := rfl
  exact h .jobs Exchange.oneJob taggingTwice (.press .enter) _ .jobs [] _
    (hsent ▸ List.mem_singleton_self _) rfl rfl

end Tab

end RecordDesk
