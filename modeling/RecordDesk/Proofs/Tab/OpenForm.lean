import Mathlib.Data.List.Induction
import RecordDesk.Proofs.Tab.Transitions

/-!
Which form an answer closes. A save may be answered late: when its form has been cancelled, when another
one is open, or in the middle of picking. Only the answer to a save of the form that is still open closes
it; all other deliveries leave the form, its editor and its view alone (`saves_close_their_form`). And a form
that edits a record replaces that record and no other one, whatever has been delivered since it was
opened.

A form is the same as long as it stays open without a break (`StaysOpen`). What the answers carry is a
number; that the number stands for the form is `staysOpen_iff`: only opening a form counts up, and
none is opened while one is open.
-/

namespace RecordDesk.Tab

/-- The tab after some events more. -/
def onward (t : Tab) (es : List TabEvent) : Tab := es.foldl (fun t e => (t.handle e).1) t

/-- The tab after a key, pressed so many times. -/
def pressed (t : Tab) (k : Key) (n : Nat) : Tab := t.onward (List.replicate n (.input (.press k)))

/-- A form is open, and stays open through some events without a break. -/
def StaysOpen (t : Tab) : List TabEvent → Prop
  | [] => t.form.isSome = true
  | e :: es => t.form.isSome = true ∧ (t.handle e).1.StaysOpen es

/-- The form that is open after some events was opened to edit `r`, and has been open since. -/
def Edits (kind : Kind) (es : List TabEvent) (r : Record) : Prop :=
  ∃ es₀ es₁, es = es₀ ++ .input (.press (.char 'e')) :: es₁ ∧
    (after kind es₀).view = .detail ∧ (after kind es₀).detail = some r ∧
    ((after kind es₀).press (.char 'e')).1.form = some (kind.seedForm r) ∧
    ((after kind es₀).press (.char 'e')).1.StaysOpen es₁

/-- Nothing has happened to the form, nor to what is being picked. -/
structure KeepsForm (t u : Tab) : Prop where
  form : u.form = t.form
  editors : u.editors = t.editors
  view : u.view = t.view
  source : u.picker.source = t.picker.source
  target : u.picker.target = t.picker.target

/-- The form is closed, and `r` is shown instead. -/
structure ShowsSaved (t : Tab) (r : Record) : Prop where
  form : t.form = none
  editors : t.editors = []
  view : t.view = .detail
  detail : t.detail = some r

theorem after_append (kind : Kind) (es fs : List TabEvent) :
    after kind (es ++ fs) = (after kind es).onward fs := List.foldl_append

theorem pressed_succ (t : Tab) (k : Key) (n : Nat) : t.pressed k (n + 1) = ((t.pressed k n).press k).1 := by
  unfold pressed onward
  rw [List.replicate_succ', List.foldl_append]
  rfl

/-! ## One step -/

/-- A key keeps or closes the form in place, or opens one where there was none. -/
theorem form_of_turn {k : Key} {x y : Scene} (turn : x.Turn k y)
    (h : x.view.hasForm = false → x.form = none) :
    y.formToken = x.formToken ∧ (y.form.isSome = true → x.form.isSome = true) ∨
      y.formToken = x.formToken + 1 ∧ x.form = none := by
  cases turn with
  | stay | prompt | ask | answer | relate | source | target => exact .inl ⟨rfl, id⟩
  | fill form => exact .inl ⟨rfl, fun _ => form⟩
  | browse browsing form =>
    rcases form with rfl | rfl
    · exact .inl ⟨rfl, id⟩
    · exact .inl ⟨rfl, fun hsome => absurd hsome Bool.false_ne_true⟩
  | retarget view => exact .inl ⟨rfl, fun hsome => absurd hsome Bool.false_ne_true⟩
  | add view able =>
    refine .inr ⟨rfl, h ?_⟩
    cases hv : x.view <;> simp_all [View.isList, View.hasForm]
  | edit key view detail able => exact .inr ⟨rfl, h (by rw [view]; rfl)⟩
  | details view => exact .inr ⟨rfl, h (by rw [view]; rfl)⟩

theorem Consistent.form_none {t : Tab} (h : t.Consistent) (hv : t.view.hasForm = false) :
    t.form = none := by
  cases hf : t.form with
  | none => rfl
  | some f =>
    have hform := h.form.mp (congrArg Option.isSome hf)
    exact absurd (hv.symm.trans hform) Bool.false_ne_true

theorem form_handle {t : Tab} (h : t.Consistent) (e : TabEvent) :
    (t.handle e).1.formToken = t.formToken ∧
        ((t.handle e).1.form.isSome = true → t.form.isSome = true) ∨
      (t.handle e).1.formToken = t.formToken + 1 ∧ t.form = none := by
  have same {u : Tab} (htoken : u.formToken = t.formToken) (hform : u.form = t.form) :
      u.formToken = t.formToken ∧ (u.form.isSome = true → t.form.isSome = true) ∨
        u.formToken = t.formToken + 1 ∧ t.form = none := .inl ⟨htoken, fun ho => hform ▸ ho⟩
  cases e with
  | deliver d =>
    have hd := heard_deliver t d
    change t.Heard d (t.handle (.deliver d)) at hd
    generalize t.handle (.deliver d) = r at hd
    cases hd with
    | quiet hs => exact same (congrArg Stage.formToken hs) (congrArg (·.face.form) hs)
    | reload hs => exact same (congrArg Stage.formToken hs) (congrArg (·.face.form) hs)
    | saved hs => exact .inl ⟨congrArg Stage.formToken hs, fun ho => absurd ho Bool.false_ne_true⟩
  | input i =>
    rcases take_cases t i with ⟨k, rfl⟩ | hscene
    · exact form_of_turn (deed_press t k).1.turn h.form_none
    · exact same (congrArg Scene.formToken hscene) (congrArg Scene.form hscene)

/-! ## Runs -/

theorem Coherent.onward {t : Tab} (h : t.Coherent) (es : List TabEvent) : (t.onward es).Coherent := by
  induction es generalizing t with
  | nil => exact h
  | cons e es ih => exact ih (h.handle e)

theorem formToken_le {t : Tab} (h : t.Coherent) (es : List TabEvent) :
    t.formToken ≤ (t.onward es).formToken := by
  induction es generalizing t with
  | nil => exact Nat.le_refl _
  | cons e es ih =>
    have hrest := ih (h.handle e)
    change (t.handle e).1.formToken ≤ (t.onward (e :: es)).formToken at hrest
    rcases form_handle h.consistent e with ⟨htoken, -⟩ | ⟨htoken, -⟩
    · omega
    · omega

theorem StaysOpen.isSome {t : Tab} {es : List TabEvent} (h : t.StaysOpen es) : t.form.isSome = true := by
  cases es with
  | nil => exact h
  | cons e es => exact h.1

/-- A form stays open if and only if at the end there is a form, under the same number. -/
theorem staysOpen_iff {t : Tab} (h : t.Coherent) {es : List TabEvent} :
    t.StaysOpen es ↔ (t.onward es).formToken = t.formToken ∧ (t.onward es).form.isSome = true := by
  induction es generalizing t with
  | nil => exact ⟨fun ho => ⟨rfl, ho⟩, And.right⟩
  | cons e es ih =>
    have hrest := ih (h.handle e)
    have hle := formToken_le (h.handle e) es
    change (t.handle e).1.formToken ≤ (t.onward (e :: es)).formToken at hle
    change _ ↔ (t.onward (e :: es)).formToken = _ ∧ (t.onward (e :: es)).form.isSome = true at hrest
    rcases form_handle h.consistent e with ⟨htoken, hform⟩ | ⟨htoken, hnone⟩
    · rw [htoken] at hrest
      constructor
      · rintro ⟨-, ho⟩
        exact hrest.mp ho
      · intro hsame
        have ho := hrest.mpr hsame
        exact ⟨hform ho.isSome, ho⟩
    · -- A new form has been opened, so there was none before.
      constructor
      · rintro ⟨ho, -⟩
        rw [hnone] at ho
        exact absurd ho Bool.false_ne_true
      · rintro ⟨hsame, -⟩
        omega

/-! ## The record that a form edits -/

/-- The view of a form that edits a record is entered by one key only, which seeds the form. -/
theorem edit_of_turn {k : Key} {x y : Scene} (turn : x.Turn k y)
    (hback : ∀ action target back, x.view = .confirm action target back → back = .detail)
    (hv : y.view = .edit) :
    x.view = .edit ∧ y.formToken = x.formToken ∧ y.detail = x.detail ∨
      k = .char 'e' ∧ x.view = .detail ∧
        ∃ r, x.detail = some r ∧ y.detail = some r ∧ y.form = some (x.kind.seedForm r) := by
  cases turn with
  | stay => exact .inl ⟨hv, rfl, rfl⟩
  | fill form => exact .inl ⟨hv, rfl, rfl⟩
  | @browse v f d browsing form =>
    obtain rfl : v = .edit := hv
    exact absurd browsing Bool.false_ne_true
  | @answer action target back view =>
    -- A confirmation only ever goes back to the detail.
    obtain rfl : back = .edit := hv
    cases hback action target .edit view
  | edit key view detail able => exact .inr ⟨key, view, _, detail, detail, rfl⟩
  | prompt | ask | add | relate | source | target | details | retarget => cases hv

/-- Until the form is left, the record in detail may change its state, but it is no other one. -/
theorem edit_handle {t : Tab} (h : t.Consistent) (e : TabEvent) (hv : (t.handle e).1.view = .edit) :
    t.view = .edit ∧ (t.handle e).1.formToken = t.formToken ∧
        (t.handle e).1.detail.map Record.id = t.detail.map Record.id ∨
      e = .input (.press (.char 'e')) ∧ t.view = .detail ∧ ∃ r, t.detail = some r ∧
        (t.handle e).1.detail = some r ∧ (t.handle e).1.form = some (t.kind.seedForm r) := by
  have same {u : Tab} (hu : u.view = .edit) (hview : u.view = t.view)
      (htoken : u.formToken = t.formToken) (hid : u.detail.map Record.id = t.detail.map Record.id) :
      t.view = .edit ∧ u.formToken = t.formToken ∧
        u.detail.map Record.id = t.detail.map Record.id := ⟨hview ▸ hu, htoken, hid⟩
  cases e with
  | deliver d =>
    have hd := heard_deliver t d
    change t.Heard d (t.handle (.deliver d)) at hd
    generalize t.handle (.deliver d) = r at hd hv
    cases hd with
    | quiet hs | reload hs =>
      exact .inl (same hv (congrArg (·.face.view) hs) (congrArg Stage.formToken hs)
        (congrArg Stage.subject hs))
    | saved hs => cases hv
  | input i =>
    rcases take_cases t i with ⟨k, rfl⟩ | hscene
    · rcases edit_of_turn (deed_press t k).1.turn h.back hv with ⟨hview, htoken, hdetail⟩ | ⟨rfl, hopens⟩
      · exact .inl (same hv (hv.trans hview.symm) htoken (congrArg (·.map Record.id) hdetail))
      · exact .inr ⟨rfl, hopens⟩
    · exact .inl (same hv (congrArg Scene.view hscene) (congrArg Scene.formToken hscene)
        (congrArg (·.detail.map Record.id) hscene))

theorem exists_edits {kind : Kind} {es : List TabEvent} (hv : (after kind es).view = .edit) :
    ∃ r, Edits kind es r ∧ (after kind es).detail.map Record.id = some r.id := by
  induction es using List.reverseRecOn with
  | nil => cases hv
  | append_singleton es e ih =>
    have hafter : after kind (es ++ [e]) = ((after kind es).handle e).1 := after_append kind es [e]
    rw [hafter] at hv ⊢
    have hform : ((after kind es).handle e).1.form.isSome = true :=
      ((coherent_after kind es).handle e).consistent.form.mpr (by rw [hv]; rfl)
    rcases edit_handle (coherent_after kind es).consistent e hv with ⟨hview, htoken, hid⟩ |
      ⟨rfl, hview, r, hdetail, hdetail', hseed⟩
    · obtain ⟨r, ⟨es₀, es₁, rfl, hview₀, hdetail₀, hseed, hopen⟩, hid'⟩ := ih hview
      refine ⟨r, ⟨es₀, es₁ ++ [e], ?_, hview₀, hdetail₀, hseed, ?_⟩, hid.trans hid'⟩
      · rw [List.append_assoc, List.cons_append]
      · have hopened := (coherent_after kind es₀).press (.char 'e')
        have hend : ((after kind es₀).press (.char 'e')).1.onward (es₁ ++ [e]) =
            ((after kind (es₀ ++ .input (.press (.char 'e')) :: es₁)).handle e).1 := by
          rw [after_append]
          exact List.foldl_append
        rw [staysOpen_iff hopened, hend]
        refine ⟨htoken.trans ?_, hform⟩
        rw [after_append]
        exact ((staysOpen_iff hopened).mp hopen).1
    · rw [kind_after] at hseed
      refine ⟨r, ⟨es, [], rfl, hview, hdetail, hseed, hform⟩, ?_⟩
      rw [hdetail', Option.map_some]

/-! ## Saves and their answers -/

/-- A save carries the number of the form that it was issued from. -/
theorem formToken_of_issued {t : Tab} {e : TabEvent} {c : Command} (hc : c ∈ (t.handle e).2)
    (hslot : c.slot = .save) : c.generation = t.formToken ∧ t.form.isSome = true := by
  rcases command_cases hc with rfl | rfl | ⟨k, rfl⟩
  · cases hslot
  · cases hslot
  · have sends := (deed_press t k).1.sends
    change c ∈ (t.press k).2 at hc
    generalize (t.press k).2 = cs at sends hc
    cases sends with
    | nothing => cases hc
    | save key saves =>
      obtain rfl := List.mem_singleton.mp hc
      refine ⟨rfl, ?_⟩
      cases saves with
      | add view form => exact congrArg Option.isSome form
      | edit view form => exact congrArg Option.isSome form
      | relate view form => exact congrArg Option.isSome form
    | rows | candidates | record | scopes | confirm | bulk =>
      obtain rfl := List.mem_singleton.mp hc
      cases hslot

theorem ownsForm_iff {t : Tab} (h : t.Consistent) {token : Nat} :
    t.ownsForm token = true ↔ t.formToken = token ∧ t.form.isSome = true := by
  have hview : t.ownsForm token = (token == t.formToken && t.form.isSome && t.view.hasForm) := by
    unfold ownsForm View.hasForm
    rfl
  rw [hview, Bool.and_eq_true, Bool.and_eq_true, beq_iff_eq, ← h.form, and_assoc, and_self, eq_comm]

/-- The answer to a save finds its form open if and only if that has stayed open since. -/
theorem ownsForm_iff_staysOpen {kind : Kind} {es fs : List TabEvent} {e : TabEvent} {c : Command}
    (hc : c ∈ ((after kind es).handle e).2) (hslot : c.slot = .save) :
    (after kind (es ++ e :: fs)).ownsForm c.generation = true ↔ (after kind es).StaysOpen (e :: fs) := by
  rw [ownsForm_iff (coherent_after kind _).consistent, staysOpen_iff (coherent_after kind es), after_append,
    (formToken_of_issued hc hslot).1]

theorem keepsForm_of_stage {t u : Tab} (h : u.stage = t.stage) : t.KeepsForm u where
  form := congrArg (·.face.form) h
  editors := congrArg (·.face.editors) h
  view := congrArg (·.face.view) h
  source := congrArg (·.face.source) h
  target := congrArg (·.face.target) h

/-- A full update replaces the record in detail, from the form that edits it. -/
theorem edit_of_issued {t : Tab} {e : TabEvent} {c : Command} (hc : c ∈ (t.handle e).2) {kind : Kind}
    {id : String} {p : Payload} (hr : c.request = .update kind id (.full p)) :
    t.view = .edit ∧ t.detail.map Record.id = some id := by
  rcases command_cases hc with rfl | rfl | ⟨k, rfl⟩
  · cases hr
  · cases hr
  · have sends := (deed_press t k).1.sends
    change c ∈ (t.press k).2 at hc
    generalize (t.press k).2 = cs at sends hc
    cases sends with
    | nothing => cases hc
    | save key saves =>
      obtain rfl := List.mem_singleton.mp hc
      cases saves with
      | add => cases hr
      | edit view form detail build =>
        cases hr
        exact ⟨view, congrArg (·.map Record.id) detail⟩
      | relate => cases hr
    | @confirm action =>
      obtain rfl := List.mem_singleton.mp hc
      cases action with
      | archive => cases hr
      | revert => cases hr
    | rows | candidates | record | scopes | bulk =>
      obtain rfl := List.mem_singleton.mp hc
      cases hr

/-- In any run: an answer to a save whose form is still open closes that form, shows the record that came
back and queries the rows; every other answer to an issued command, whatever its outcome, leaves the
form, the editor, the view and the picks as they are. And a full update only ever goes to the record
that its form was opened for. -/
theorem saves_close_their_form (kind : Kind) :
    (∀ es e fs c outcome, c ∈ ((after kind es).handle e).2 →
      let t := after kind (es ++ e :: fs)
      let u := t.deliver (c.delivery outcome)
      (∀ r, c.slot = .save → outcome = .ok (.record r) → (after kind es).StaysOpen (e :: fs) →
        u.1.ShowsSaved r ∧ u.2 = [u.1.rowsQuery]) ∧
      (¬ (c.slot = .save ∧ (∃ r, outcome = .ok (.record r)) ∧ (after kind es).StaysOpen (e :: fs)) →
        t.KeepsForm u.1)) ∧
    ∀ es e c k id p, c ∈ ((after kind es).handle e).2 → c.request = .update k id (.full p) →
      (after kind es).view = .edit ∧ ∃ r, Edits kind es r ∧ id = r.id := by
  refine ⟨fun es e fs c outcome hc => ⟨fun r hslot ho hopen => ?_, fun hother => ?_⟩,
    fun es e c k id p hc hr => ?_⟩
  · have howns := (ownsForm_iff_staysOpen hc hslot).mpr hopen
    obtain ⟨u, -, hu⟩ := deliver_of_ownsForm (d := c.delivery outcome) hslot ho howns
    rw [hu]
    exact ⟨⟨rfl, rfl, rfl, rfl⟩, rfl⟩
  · have hd := heard_deliver (after kind (es ++ e :: fs)) (c.delivery outcome)
    generalize (after kind (es ++ e :: fs)).deliver (c.delivery outcome) = u at hd
    cases hd with
    | quiet hs => exact keepsForm_of_stage hs
    | reload hs => exact keepsForm_of_stage hs
    | @saved u r hs slot ho owns =>
      exact absurd ⟨slot, ⟨r, ho⟩, (ownsForm_iff_staysOpen hc slot).mp owns⟩ hother
  · obtain ⟨hv, hid⟩ := edit_of_issued hc hr
    obtain ⟨r, hedits, hid'⟩ := exists_edits hv
    refine ⟨hv, r, hedits, ?_⟩
    rw [hid] at hid'
    exact Option.some.inj hid'

def nightShift : Record := (Record.named .jobs "job-1" "Night shift").setField "title" "Night shift"

/-- A job is loaded, opened and edited. -/
def editingJob : List TabEvent :=
  [.input .activate, .deliver ⟨.jobs, .load, 1, .ok (.records [nightShift])⟩, .input (.press .enter),
    .input (.press (.char 'e'))]

/-- It is saved. Should the save fail, the form stays; the record that comes back closes it. -/
theorem editingJob_saved :
    let e : TabEvent := .input (.press (.ctrl 's'))
    let t := after .jobs (editingJob ++ [e])
    ∃ c p, c ∈ ((after .jobs editingJob).handle e).2 ∧ c.request = .update .jobs "job-1" (.full p) ∧
      (after .jobs editingJob).StaysOpen [e] ∧ (∃ r, Edits .jobs editingJob r ∧ "job-1" = r.id) ∧
      t.KeepsForm (t.deliver (c.delivery (.error "offline"))).1 ∧
      (t.deliver (c.delivery (.ok (.record nightShift)))).1.ShowsSaved nightShift := by
  intro e t
  have hsent : ∃ p, ((after .jobs editingJob).handle e).2 =
      [⟨.jobs, .save, 1, .update .jobs "job-1" (.full p)⟩] := ⟨_, by rfl⟩
  obtain ⟨p, hsent⟩ := hsent
  have hopen : (after .jobs editingJob).StaysOpen [e] := ⟨rfl, rfl⟩
  have hmem := hsent ▸ List.mem_singleton_self _
  obtain ⟨hsaves, hedits⟩ := saves_close_their_form .jobs
  refine ⟨_, p, hmem, rfl, hopen, (hedits _ e _ _ _ p hmem rfl).2, ?_, ?_⟩
  · exact (hsaves _ e [] _ _ hmem).2 fun h => by
      obtain ⟨-, ⟨r, hr⟩, -⟩ := h
      cases hr
  · exact ((hsaves _ e [] _ _ hmem).1 _ rfl rfl hopen).1

end RecordDesk.Tab
