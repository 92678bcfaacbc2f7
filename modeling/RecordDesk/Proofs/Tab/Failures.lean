import RecordDesk.Proofs.Tab.Bench
import RecordDesk.Proofs.Tab.InFlight
import RecordDesk.Proofs.Tab.OpenForm
import RecordDesk.Proofs.Tab.Permissions

/-!
What a failure does to a tab: it ends whatever is under way and shows its message, and that is all. Of a
tab without its requests and its error (`bare`) nothing is lost, whichever view is open: not what has been
typed, marked, picked or loaded.

A service that cannot be reached fails every command, so the same is said of any number of failures in a
row. And it is what makes a failed save harmless: the key that sent it sends it again (`failure_atomic`).
-/

namespace RecordDesk.Tab

/-- The tab but for its requests and its error. -/
def bare (t : Tab) : Tab := { t with requests := .idle, error := none }

/-- A newer query has been sent in the slot of the delivery. -/
def Overtaken (t : Tab) (d : Delivery) : Prop :=
  d.slot = .load ∧ t.generation ≠ d.generation ∨
    d.slot = .candidates ∧ t.picker.generation ≠ d.generation

/-- What is left of a tab by a failure in a slot. -/
structure FailedIn (t : Tab) (slot : Slot) (message : String) (r : Tab × List Command) : Prop where
  commands : r.2 = []
  failed : r.1.requests.get slot = .failed message
  idle : ∀ other, other ≠ slot → r.1.requests.get other = .idle
  nothingPending : r.1.requests.anyPending = false
  error : r.1.error = some message
  kept : r.1.bare = t.bare

/-! ## One failure -/

theorem isStale_iff {t : Tab} {d : Delivery} : t.isStale d.slot d.generation = true ↔ t.Overtaken d := by
  unfold isStale Overtaken
  cases d.slot <;> simp [currentGeneration?]

theorem failedIn_failAll (t : Tab) (slot : Slot) (message : String) :
    t.FailedIn slot message (t.failAll slot message, []) where
  commands := rfl
  failed := Requests.get_set_self _ _ _
  idle other h := by simp [failAll, Requests.get_set_ne h]
  nothingPending := by simp [Requests.anyPending, Dialogue.isPending_failAll]
  error := rfl
  kept := rfl

/-- A failure that has been overtaken is dropped; any other one ends all requests. -/
theorem deliver_failure (t : Tab) {d : Delivery} {message : String} (h : d.outcome = .error message) :
    (t.Overtaken d → t.deliver d = (t, [])) ∧
      (¬ t.Overtaken d → t.FailedIn d.slot message (t.deliver d)) := by
  constructor
  · intro hold
    exact deliver_of_isStale (isStale_iff.2 hold)
  · intro hnew
    have hfresh : t.isStale d.slot d.generation = false := by
      rw [← Bool.not_eq_true, isStale_iff]
      exact hnew
    rw [deliver_error hfresh h]
    exact failedIn_failAll t d.slot message

theorem bare_of_failure (t : Tab) {d : Delivery} {message : String} (h : d.outcome = .error message) :
    (t.deliver d).2 = [] ∧ (t.deliver d).1.bare = t.bare := by
  by_cases hold : t.Overtaken d
  · rw [(deliver_failure t h).1 hold]
    exact ⟨rfl, rfl⟩
  · have hfailed := (deliver_failure t h).2 hold
    exact ⟨hfailed.commands, hfailed.kept⟩

/-! ## Failures in a row -/

theorem bare_of_failures (t : Tab) {ds : List Delivery}
    (h : ∀ d ∈ ds, ∃ message, d.outcome = .error message) :
    t.issued (ds.map .deliver) = [] ∧ (t.onward (ds.map .deliver)).bare = t.bare := by
  induction ds generalizing t with
  | nil => exact ⟨rfl, rfl⟩
  | cons d ds ih =>
    obtain ⟨message, hd⟩ := h d List.mem_cons_self
    obtain ⟨hsilent, hbare⟩ := bare_of_failure t hd
    obtain ⟨hsilent', hbare'⟩ := ih (t.deliver d).1 fun d' hd' => h d' (List.mem_cons_of_mem d hd')
    constructor
    · show (t.deliver d).2 ++ (t.deliver d).1.issued (ds.map .deliver) = []
      rw [hsilent, hsilent', List.append_nil]
    · exact hbare'.trans hbare

/-! ## Sending a save again -/

/-- The key that saves, in a form. -/
theorem press_save {t : Tab} (editors : t.editors = []) (view : t.view.hasForm = true)
    (form : t.form.isSome = true) : t.press (.ctrl 's') = { t with error := none, notice := none }.saveForm := by
  obtain ⟨f, hf⟩ := Option.isSome_iff_exists.1 form
  rw [press_of_form editors view]
  simp [pressForm, hf]

theorem bare_saveForm (t : Tab) : t.saveForm.1.bare = t.bare := by
  obtain ⟨_, _, h⟩ := saveForm_frame t
  rw [h]
  rfl

/-- A save goes out while none is pending, and is made of the form alone. -/
structure SendsSave (t : Tab) (c : Command) (r : Request) : Prop where
  editors : t.editors = []
  view : t.view.hasForm = true
  form : t.form.isSome = true
  request : t.form.bind t.saveRequest? = some (.ok r)
  command : c = ⟨t.kind, .save, t.formToken, r⟩

theorem sendsSave_of_mem {t : Tab} (h : t.Consistent) {c : Command} (hc : c ∈ (t.press (.ctrl 's')).2)
    (hslot : c.slot = .save) : ∃ r, t.SendsSave c r := by
  have he : t.editors = [] := by
    by_contra hopen
    rw [(deed_press t (.ctrl 's')).2 hopen] at hc
    cases hc
  have hform : t.form.isSome = true := (formToken_of_issued (e := .input (.press (.ctrl 's'))) hc hslot).2
  have hview := h.form.1 hform
  rw [press_save he hview hform] at hc
  unfold saveForm at hc
  split at hc
  · cases hc
  · next hfree =>
    split at hc
    · cases hc
    · cases hc
    · next r hr =>
      rw [issue_of_free (Bool.not_eq_true _ ▸ hfree)] at hc
      exact ⟨r, he, hview, hform, hr, List.mem_singleton.1 hc⟩

theorem SendsSave.press {t : Tab} {c : Command} {r : Request} (h : t.SendsSave c r)
    (free : t.requests.isPending .save = false) : (t.press (.ctrl 's')).2 = [c] := by
  have hr : ({ t with error := none, notice := none } : Tab).form.bind
      ({ t with error := none, notice := none } : Tab).saveRequest? = some (.ok r) := h.request
  have hfree : ({ t with error := none, notice := none } : Tab).requests.isPending .save = false := free
  rw [press_save h.editors h.view h.form, h.command]
  unfold saveForm
  rw [hfree, if_neg Bool.false_ne_true, hr]
  dsimp only
  rw [issue_of_free hfree]
  rfl

/-- Which save goes out does not depend on what a failure changes, nor on the notice. -/
theorem SendsSave.of_bare {t u : Tab} {c : Command} {r : Request} (h : t.SendsSave c r)
    (hu : u.bare = { t.bare with notice := none }) : u.SendsSave c r := by
  have hbare : u.bare.SendsSave c r := by
    rw [hu]
    exact ⟨h.editors, h.view, h.form, h.request, h.command⟩
  exact ⟨hbare.editors, hbare.view, hbare.form, hbare.request, hbare.command⟩

/-- In any state that a tab can come to: a failure, unless a newer query has overtaken it, issues nothing, leaves
its message in its slot and as the error, all other slots idle, and everything else as it was; if it has been
overtaken, it does nothing. However many failures come in a row, they issue nothing and leave the rest alone. So
the save that has failed is sent again, the same, by the same key. -/
theorem failure_atomic (kind : Kind) (es : List TabEvent) :
    let t := after kind es
    (∀ d message, d.outcome = .error message →
      (t.Overtaken d → t.deliver d = (t, [])) ∧
        (¬ t.Overtaken d → t.FailedIn d.slot message (t.deliver d))) ∧
    (∀ ds : List Delivery, (∀ d ∈ ds, ∃ message, d.outcome = .error message) →
      t.issued (ds.map .deliver) = [] ∧ (t.onward (ds.map .deliver)).bare = t.bare) ∧
    ∀ c message, c ∈ (t.press (.ctrl 's')).2 → c.slot = .save →
      (((t.press (.ctrl 's')).1.deliver (c.delivery (.error message))).1.press (.ctrl 's')).2 = [c] := by
  intro t
  refine ⟨fun d message hd => deliver_failure t hd, fun ds hds => bare_of_failures t hds, ?_⟩
  intro c message hc hslot
  obtain ⟨r, hsends⟩ := sendsSave_of_mem (coherent_after kind es).consistent hc hslot
  have hsaved : (t.press (.ctrl 's')).1.bare = { t.bare with notice := none } := by
    rw [press_save hsends.editors hsends.view hsends.form, bare_saveForm]
    rfl
  have hnew : ¬ (t.press (.ctrl 's')).1.Overtaken (c.delivery (.error message)) := by
    rintro (⟨hload, -⟩ | ⟨hcandidates, -⟩)
    · cases hslot.symm.trans hload
    · cases hslot.symm.trans hcandidates
  have houtcome : (c.delivery (.error message)).outcome = .error message := rfl
  have hfailed := (deliver_failure (t.press (.ctrl 's')).1 houtcome).2 hnew
  refine (hsends.of_bare (hfailed.kept.trans hsaved)).press ?_
  have hpending := hfailed.nothingPending
  unfold Requests.anyPending at hpending
  simpa using List.any_eq_false.1 hpending .save (by decide)

/-- A job is edited, and the editor of its metadata is open, when the list is loaded again. -/
def reloadingBehindEditor : List TabEvent :=
  editingJob ++ [.input .reload, .input (.press .up), .input (.press .enter), .input (.press (.char 'k'))]

theorem failure_behind_editor :
    let t := after .jobs reloadingBehindEditor
    let d : Delivery := ⟨.jobs, .load, 2, .error "offline"⟩
    let old : Delivery := ⟨.jobs, .load, 1, .error "offline"⟩
    ¬ t.Overtaken d ∧ t.FailedIn .load "offline" (t.deliver d) ∧
      (t.deliver d).1.editors.map Editor.buffer = ["k"] ∧
      t.Overtaken old ∧ t.deliver old = (t, []) ∧ (t.onward [.deliver old, .deliver d]).bare = t.bare ∧
      ∃ c, c ∈ ((after .jobs editingJob).press (.ctrl 's')).2 ∧ c.slot = .save ∧
        ((((after .jobs editingJob).press (.ctrl 's')).1.deliver (c.delivery (.error "offline"))).1.press
          (.ctrl 's')).2 = [c] := by
  intro t d old
  have hnew : ¬ t.Overtaken d := by
    rintro (⟨-, hne⟩ | ⟨hslot, -⟩)
    · exact hne rfl
    · cases hslot
  have hold : t.Overtaken old := .inl ⟨rfl, by decide⟩
  obtain ⟨one, many, -⟩ := failure_atomic .jobs reloadingBehindEditor
  have hfailed := (one d "offline" rfl).2 hnew
  have hbuffer : t.editors.map Editor.buffer = ["k"] := rfl
  have heditors : (t.deliver d).1.bare.editors = t.bare.editors := congrArg editors hfailed.kept
  change (t.deliver d).1.editors = t.editors at heditors
  refine ⟨hnew, hfailed, heditors ▸ hbuffer, hold, (one old "offline" rfl).1 hold, ?_, ?_⟩
  · refine (many [old, d] ?_).2
    simp [old, d]
  · have hsent : ∃ c, ((after .jobs editingJob).press (.ctrl 's')).2 = [c] ∧ c.slot = .save := ⟨_, by rfl, rfl⟩
    obtain ⟨c, hc, hslot⟩ := hsent
    have hmem := hc ▸ List.mem_singleton_self c
    exact ⟨c, hmem, hslot, (failure_atomic .jobs editingJob).2.2 c "offline" hmem hslot⟩

end RecordDesk.Tab
