import Mathlib.Data.List.Induction
import RecordDesk.Proofs.Tab.OpenForm

/-!
What saving a form does that has been opened and not touched. A form is seeded once, from the record in
detail, and no answer changes it. The record in detail may well change: a newer state of it may come while
the form is open. So what is saved is the record as it was when the form was opened
(`untouched_saves_seed`), and that may be older than the record shown (`untouched_saves_older`).
-/

namespace RecordDesk

/-- The event is an answer with this record. -/
def TabEvent.Brings (e : TabEvent) (r : Record) : Prop := ∃ d, e = .deliver d ∧ d.outcome = .ok (.record r)

/-- The status that a full update gives the record. -/
def Request.savedStatus? : Request → Option Status
  | .update _ id (.full p) => some (p.toRecord id).status
  | _ => none

namespace Tab

/-- The form that edits a record was opened by the key `k`, and no key came after it. -/
structure Untouched (kind : Kind) (es₀ : List TabEvent) (k : Key) (es₁ : List TabEvent) : Prop where
  closed : (after kind es₀).view ≠ .edit
  keyless : ∀ e ∈ es₁, ∀ k, e ≠ .input (.press k)
  edits : (after kind (es₀ ++ .input (.press k) :: es₁)).view = .edit

/-- The tab with its form seeded anew, from the record in detail. -/
def reseeded (t : Tab) : Tab := { t with form := t.detail.map t.kind.seedForm }

/-! ## Opening the form -/

theorem editors_editDetail (t : Tab) (r : Record) : (t.editDetail r).1.editors = t.editors :=
  congrArg Face.editors (face_refreshScopes _)

/-- With no editor open. -/
theorem editors_press_edit {t : Tab} (h : t.Coherent) (hv : t.view = .detail) :
    (t.press (.char 'e')).1.editors = [] := by
  have he : t.editors = [] := h.editors_nil (h.consistent.form_none (by rw [hv]; rfl))
  rw [press_of_no_editor he]
  simp only [pressView, hv, pressDetail]
  split
  · exact he
  · next r _ =>
    split
    · exact (editors_editDetail _ r).trans he
    · exact he

/-! ## Until it is saved -/

theorem detail_refreshDetail (t : Tab) (r : Record) :
    (t.refreshDetail r).detail = t.detail ∨ (t.refreshDetail r).detail = some r := by
  obtain ⟨detail, hdetail, -, h⟩ := refreshDetail_frame t r
  rw [h]
  exact hdetail

theorem detail_saved (t : Tab) (token : Nat) (r : Record) :
    (t.saved token r).1.detail = t.detail ∨ (t.saved token r).1.detail = some r := by
  unfold saved
  dsimp only
  split
  · exact .inr rfl
  · exact detail_refreshDetail { t with notice := some s!"saved {r.kind.noun} {r.title}" } r

/-- A delivery keeps the record in detail, or brings the one that is there then. -/
theorem detail_deliver (t : Tab) (d : Delivery) :
    (t.deliver d).1.detail = t.detail ∨
      ∃ r, (TabEvent.deliver d).Brings r ∧ (t.deliver d).1.detail = some r := by
  have brought {r : Record} (ho : d.outcome = .ok (.record r)) {u : Tab}
      (h : u.detail = t.detail ∨ u.detail = some r) :
      u.detail = t.detail ∨ ∃ r, (TabEvent.deliver d).Brings r ∧ u.detail = some r :=
    h.imp id fun hr => ⟨r, ⟨d, rfl, ho⟩, hr⟩
  unfold deliver
  split
  · exact .inl rfl
  · split
    · exact .inl rfl
    · next a ho =>
      unfold applyAnswer
      split
      · unfold applyRows
        split
        · exact .inl rfl
        · exact .inl rfl
      · exact .inl rfl
      · exact brought ho (detail_refreshDetail _ _)
      · exact brought ho (detail_saved _ _ _)
      · exact brought ho (detail_refreshDetail _ _)
      · exact .inl rfl
      · exact .inl rfl
      · exact .inl rfl
      · exact .inl rfl
      · exact .inl rfl

theorem face_activate (t : Tab) : t.activate.1.face = t.face := by
  obtain ⟨_, _, _, _, h⟩ := activate_frame t
  rw [h]
  rfl

/-- No event but a key touches the form, unless it closes it. -/
theorem face_of_keyless {t : Tab} {e : TabEvent} (he : ∀ k, e ≠ .input (.press k))
    (hv : (t.handle e).1.view = .edit) :
    (t.handle e).1.face = t.face ∧
      ((t.handle e).1.detail = t.detail ∨ ∃ r, e.Brings r ∧ (t.handle e).1.detail = some r) := by
  cases e with
  | input i =>
    cases i with
    | press k => exact absurd rfl (he k)
    | reload => exact ⟨rfl, .inl rfl⟩
    | viewport height => exact ⟨rfl, .inl rfl⟩
    | activate =>
      have hscene : (t.take .activate).1.scene = _ := (take_cases t .activate).resolve_left nofun
      exact ⟨face_activate t, .inl (congrArg Scene.detail hscene)⟩
  | deliver d =>
    refine ⟨?_, detail_deliver t d⟩
    have hd := heard_deliver t d
    change t.Heard d (t.handle (.deliver d)) at hd
    generalize t.handle (.deliver d) = r at hd hv
    cases hd with
    | quiet hs => exact congrArg Stage.face hs
    | reload hs => exact congrArg Stage.face hs
    | saved hs => cases hv

/-- The form seeded from `r₀` is open and nothing has been done to it, with `r₁` in detail. -/
structure Seeded (t : Tab) (r₀ r₁ : Record) : Prop where
  view : t.view = .edit
  editors : t.editors = []
  form : t.form = some (t.kind.seedForm r₀)
  detail : t.detail = some r₁
  id : r₁.id = r₀.id

theorem Seeded.handle {t : Tab} {r₀ r₁ : Record} (h : t.Seeded r₀ r₁) (hc : t.Coherent) {e : TabEvent}
    (he : ∀ k, e ≠ .input (.press k)) (hv : (t.handle e).1.view = .edit) :
    (t.handle e).1.Seeded r₀ r₁ ∨ ∃ r, e.Brings r ∧ (t.handle e).1.Seeded r₀ r := by
  obtain ⟨hface, hdetail⟩ := face_of_keyless he hv
  have hid : (t.handle e).1.detail.map Record.id = some r₀.id := by
    rcases edit_handle hc.consistent e hv with ⟨-, -, hsame⟩ | ⟨hkey, -, -⟩
    · rw [hsame, h.detail, Option.map_some, h.id]
    · exact absurd hkey (he _)
  have seeded {r : Record} (hr : (t.handle e).1.detail = some r) : (t.handle e).1.Seeded r₀ r := by
    refine ⟨hv, (congrArg Face.editors hface).trans h.editors, ?_, hr, ?_⟩
    · rw [kind_handle]
      exact (congrArg Face.form hface).trans h.form
    · rw [hr, Option.map_some] at hid
      exact Option.some.inj hid
  rcases hdetail with hsame | ⟨r, hbrings, hr⟩
  · exact .inl (seeded (hsame.trans h.detail))
  · exact .inr ⟨r, hbrings, seeded hr⟩

/-- The key that opens the form seeds it from the record in detail. -/
theorem seeded_of_opens {t : Tab} (hc : t.Coherent) {k : Key} (hclosed : t.view ≠ .edit)
    (hv : (t.press k).1.view = .edit) : ∃ r, t.detail = some r ∧ (t.press k).1.Seeded r r := by
  rcases edit_handle hc.consistent (.input (.press k)) hv with
    ⟨hview, -, -⟩ | ⟨hkey, hview, r, hdetail, hr, hform⟩
  · exact absurd hview hclosed
  · cases hkey
    refine ⟨r, hdetail, hv, editors_press_edit hc hview, ?_, hr, rfl⟩
    have hkind : (t.press (.char 'e')).1.kind = t.kind := kind_handle t (.input (.press (.char 'e')))
    rw [hkind]
    exact hform

/-- An untouched form is the one seeded from the record that was in detail when it was opened. What is in
detail now is that record, or one that an answer has brought since. -/
theorem Untouched.seeded {kind : Kind} {es₀ es₁ : List TabEvent} {k : Key} (h : Untouched kind es₀ k es₁) :
    ∃ r₀ r₁, (after kind es₀).detail = some r₀ ∧
      (after kind (es₀ ++ .input (.press k) :: es₁)).Seeded r₀ r₁ ∧
      (r₁ = r₀ ∨ ∃ e ∈ es₁, e.Brings r₁) := by
  induction es₁ using List.reverseRecOn with
  | nil =>
    have hopened := h.edits
    rw [after_concat] at hopened ⊢
    obtain ⟨r, hdetail, hseeded⟩ := seeded_of_opens (coherent_after kind es₀) h.closed hopened
    exact ⟨r, r, hdetail, hseeded, .inl rfl⟩
  | append_singleton es₁ e ih =>
    have hsplit : es₀ ++ .input (.press k) :: (es₁ ++ [e]) = (es₀ ++ .input (.press k) :: es₁) ++ [e] := by
      rw [List.append_assoc, List.cons_append]
    obtain ⟨hkeyless, hlast⟩ := List.forall_mem_append.1 h.keyless
    have he := hlast e (List.mem_singleton_self e)
    have hv := h.edits
    rw [hsplit, after_concat] at hv ⊢
    have hc := coherent_after kind (es₀ ++ .input (.press k) :: es₁)
    have hopen : (after kind (es₀ ++ .input (.press k) :: es₁)).view = .edit :=
      (congrArg Face.view (face_of_keyless he hv).1).symm.trans hv
    obtain ⟨r₀, r₁, hdetail, hseeded, hsince⟩ := ih ⟨h.closed, hkeyless, hopen⟩
    rcases hseeded.handle hc he hv with hnext | ⟨r, hbrings, hnext⟩
    · refine ⟨r₀, r₁, hdetail, hnext, hsince.imp id ?_⟩
      rintro ⟨e', he', hbrings⟩
      exact ⟨e', List.mem_append_left [e] he', hbrings⟩
    · exact ⟨r₀, r, hdetail, hnext, .inr ⟨e, List.mem_append_right es₁ (List.mem_singleton_self e), hbrings⟩⟩

/-! ## Saving it -/

/-- What saving a form over a record does while no save is pending: it sends the full update, or shows why
there is none. -/
def sendUpdate (t : Tab) (f : Form) (r : Record) : Tab × List Command :=
  match t.kind.buildPayload f (some r) with
  | .error e => ({ t with error := some e.message }, [])
  | .ok p => t.start .save t.formToken (.update t.kind r.id (.full p))

theorem saveForm_of_edit {t : Tab} {f : Form} {r : Record} (hv : t.view = .edit) (hf : t.form = some f)
    (hd : t.detail = some r) (hfree : t.requests.isPending .save = false) : t.saveForm = t.sendUpdate f r := by
  have hrequest : t.form.bind t.saveRequest? =
      some ((t.kind.buildPayload f (some r)).map fun p => .update t.kind r.id (.full p)) := by
    rw [hf, Option.bind_some]
    unfold saveRequest?
    rw [hv, hd]
  unfold saveForm sendUpdate
  rw [hfree, if_neg Bool.false_ne_true, hrequest]
  cases t.kind.buildPayload f (some r) with
  | error e => rfl
  | ok p => exact issue_of_free hfree _ _

theorem Seeded.press_save {t : Tab} {r₀ r₁ : Record} (h : t.Seeded r₀ r₁)
    (hfree : t.requests.isPending .save = false) :
    t.press (.ctrl 's') = { t with error := none, notice := none }.sendUpdate (t.kind.seedForm r₀) r₁ := by
  have hsave : t.press (.ctrl 's') = { t with error := none, notice := none }.saveForm := by
    simp only [press_of_no_editor h.editors, pressView, h.view, pressForm, h.form]
  rw [hsave]
  exact saveForm_of_edit h.view h.form h.detail hfree

/-- Where no key has come since the form was opened, saving it sends the update of the record in detail that
is built from the record as it was then; or shows why that cannot be built. It does what it would do with
the form seeded anew, unless an answer has brought a record since whose form differs. -/
theorem untouched_saves_seed {kind : Kind} {es₀ es₁ : List TabEvent} {k : Key}
    (h : Untouched kind es₀ k es₁)
    (hfree : (after kind (es₀ ++ .input (.press k) :: es₁)).requests.isPending .save = false) :
    let t := after kind (es₀ ++ .input (.press k) :: es₁)
    ∃ r₀ r₁, (after kind es₀).detail = some r₀ ∧ t.detail = some r₁ ∧ r₁.id = r₀.id ∧
      (r₁ = r₀ ∨ ∃ e ∈ es₁, e.Brings r₁) ∧
      t.press (.ctrl 's') = { t with error := none, notice := none }.sendUpdate (kind.seedForm r₀) r₁ ∧
      (t.press (.ctrl 's') = t.reseeded.press (.ctrl 's') ∨
        (∃ e ∈ es₁, e.Brings r₁) ∧ kind.seedForm r₁ ≠ kind.seedForm r₀) := by
  intro t
  obtain ⟨r₀, r₁, hdetail, hseeded, hsince⟩ := h.seeded
  change t.Seeded r₀ r₁ at hseeded
  have hkind : t.kind = kind := kind_after kind _
  refine ⟨r₀, r₁, hdetail, hseeded.detail, hseeded.id, hsince, ?_, ?_⟩
  · rw [hseeded.press_save hfree, hkind]
  · by_cases hsame : kind.seedForm r₁ = kind.seedForm r₀
    · have hform : t.detail.map t.kind.seedForm = t.form := by
        rw [hseeded.detail, Option.map_some, hkind, hsame, hseeded.form, hkind]
      have hreseeded : t.reseeded = t := by
        unfold reseeded
        rw [hform]
      rw [hreseeded]
      exact .inl rfl
    · refine .inr ⟨hsince.resolve_left ?_, hsame⟩
      rintro rfl
      exact hsame rfl

/-- A job is shown, and to be archived. -/
def archivingShown : List TabEvent :=
  [.input .activate, .deliver ⟨.jobs, .load, 1, .ok (.records [nightShift])⟩, .input (.press .enter),
    .input (.press (.char 'a')), .input (.press (.char 'y'))]

/-- It has been archived. -/
def archivedMeanwhile : List TabEvent :=
  [.deliver ⟨.jobs, .confirm, 0, .ok (.record { nightShift with status := .archived })⟩]

theorem untouched_archivedMeanwhile : Untouched .jobs archivingShown (.char 'e') archivedMeanwhile where
  closed h := by cases h
  keyless e he k hk := by
    obtain rfl := List.mem_singleton.1 he
    cases hk
  edits := rfl

theorem untouched_saves_nightShift :
    let t := after .jobs (archivingShown ++ .input (.press (.char 'e')) :: archivedMeanwhile)
    Untouched .jobs archivingShown (.char 'e') archivedMeanwhile ∧ t.requests.isPending .save = false ∧
      ∃ r₁, t.detail = some r₁ ∧ r₁.status = .archived ∧
        t.press (.ctrl 's') =
          { t with error := none, notice := none }.sendUpdate (Kind.jobs.seedForm nightShift) r₁ := by
  intro t
  have hdetail : (after .jobs archivingShown).detail = some nightShift := rfl
  have harchived : t.detail.map Record.status = some .archived := rfl
  obtain ⟨r₀, r₁, hr₀, hr₁, -, -, hsent, -⟩ := untouched_saves_seed untouched_archivedMeanwhile rfl
  rw [hdetail, Option.some.injEq] at hr₀
  subst hr₀
  refine ⟨untouched_archivedMeanwhile, rfl, r₁, hr₁, ?_, hsent⟩
  change t.detail = some r₁ at hr₁
  rw [hr₁] at harchived
  exact Option.some.inj harchived

/-- Though the record is shown as archived, saving the form would make it active again. -/
theorem untouched_saves_older :
    (¬ ∀ (kind : Kind) (es₀ : List TabEvent) (k : Key) (es₁ : List TabEvent), Untouched kind es₀ k es₁ →
        (after kind (es₀ ++ .input (.press k) :: es₁)).requests.isPending .save = false →
        ((after kind (es₀ ++ .input (.press k) :: es₁)).press (.ctrl 's')).2 =
          ((after kind (es₀ ++ .input (.press k) :: es₁)).reseeded.press (.ctrl 's')).2) ∧
      let t := after .jobs (archivingShown ++ .input (.press (.char 'e')) :: archivedMeanwhile)
      t.detail.map Record.status = some .archived ∧
        (t.press (.ctrl 's')).2.filterMap (·.request.savedStatus?) = [.active] ∧
        (t.reseeded.press (.ctrl 's')).2.filterMap (·.request.savedStatus?) = [.archived] := by
  have hsent : ((after .jobs (archivingShown ++ .input (.press (.char 'e')) :: archivedMeanwhile)).press
      (.ctrl 's')).2.filterMap (·.request.savedStatus?) = [.active] := rfl
  have hfresh : ((after .jobs (archivingShown ++ .input (.press (.char 'e')) ::
      archivedMeanwhile)).reseeded.press (.ctrl 's')).2.filterMap (·.request.savedStatus?) = [.archived] := rfl
  refine ⟨fun h => ?_, rfl, hsent, hfresh⟩
  have hsame := h .jobs archivingShown (.char 'e') archivedMeanwhile untouched_archivedMeanwhile rfl
  rw [hsame, hfresh] at hsent
  cases hsent

end Tab

end RecordDesk
