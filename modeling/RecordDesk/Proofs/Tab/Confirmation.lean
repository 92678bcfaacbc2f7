import RecordDesk.Proofs.Tab.InFlight
import RecordDesk.Proofs.Tab.Permissions
import RecordDesk.View.Render

/-!
The question before a record is archived or a change reverted says what its answer does
(`question_faithful`): the record that it names is the one that a yes changes, the yes goes out at once
and as one command, and a no only goes back to the record.

The question holds a copy of the record's id, and whether its slot is free was looked at when it was
opened. In between answers of all sorts come in. What carries both through is `Ready`: while a question
is open no delivery brings another record into detail, and only its own yes makes its slot pending
(`confirm_of_command`).
-/

namespace RecordDesk

/-- What is asked about a record with a title. -/
def ConfirmAction.question (action : ConfirmAction) (kind : Kind) (title : String) : String :=
  match action with
  | .archive => "archive " ++ kind.noun ++ " " ++ title ++ "?"
  | .revert => "revert the change recorded by " ++ title ++ "?"

namespace Tab

/-- The record in detail is the one asked about, and the answer has a free slot. -/
structure Poised (t : Tab) (target : String) : Prop where
  subject : t.detail.map Record.id = some target
  free : t.requests.isPending .confirm = false

/-- A question that is open can be answered. -/
def Ready (t : Tab) : Prop :=
  ∀ action target back, t.view = .confirm action target back → t.Poised target

/-! ## Slots -/

/-- A move leaves the slots alone that it sends nothing in. -/
theorem Move.isPending {t : Tab} {r : Tab × List Command} (hm : t.Move r) {slot : Slot}
    (hnone : ∀ c ∈ r.2, c.slot ≠ slot) : r.1.requests.isPending slot = t.requests.isPending slot := by
  cases hm with
  | quiet h => exact congrArg (·.traffic.requests.isPending slot) h
  | @load u h =>
    have hslot : slot ≠ .load := Ne.symm (hnone u.reload.1.rowsQuery (List.mem_singleton_self _))
    exact (Dialogue.isPending_set_ne hslot _ _).trans (congrArg (·.requests.isPending slot) h)
  | candidates h => exact congrArg (·.traffic.requests.isPending slot) h
  | @request u own generation req h =>
    have hslot : slot ≠ own := Ne.symm (hnone ⟨u.kind, own, generation, req⟩ (List.mem_singleton_self _))
    exact (Dialogue.isPending_set_ne hslot _ _).trans (congrArg (·.traffic.requests.isPending slot) h)

theorem Moves.isPending {t : Tab} {r : Tab × List Command} (hm : t.Moves r) {slot : Slot}
    (hnone : ∀ c ∈ r.2, c.slot ≠ slot) : r.1.requests.isPending slot = t.requests.isPending slot := by
  induction hm with
  | refl => rfl
  | step _ hs ih =>
    obtain ⟨hr, hs'⟩ := List.forall_mem_append.1 hnone
    exact (hs.isPending hs').trans (ih hr)

/-- A command in the slot of the question is its answer. -/
theorem confirm_of_command {t : Tab} {e : TabEvent} {c : Command} (hc : c ∈ (t.handle e).2)
    (hslot : c.slot = .confirm) :
    (∃ k, e = .input (.press k)) ∧ ∃ action target back, t.view = .confirm action target back := by
  rcases command_cases hc with rfl | rfl | ⟨k, rfl⟩
  · cases hslot
  · cases hslot
  · refine ⟨⟨k, rfl⟩, ?_⟩
    have sends := (deed_press t k).1.sends
    change c ∈ (t.press k).2 at hc
    generalize (t.press k).2 = cs at sends hc
    cases sends with
    | nothing => cases hc
    | @confirm action target back key view => exact ⟨action, target, back, view⟩
    | rows | candidates | record | scopes | save | bulk =>
      obtain rfl := List.mem_singleton.mp hc
      cases hslot

/-! ## The question is asked -/

/-- A question is opened in detail, about the record there. -/
theorem ask_of_turn {k : Key} {x y : Scene} (turn : x.Turn k y) {action : ConfirmAction} {target : String}
    {back : View} (hx : ∀ action target back, x.view ≠ .confirm action target back)
    (hy : y.view = .confirm action target back) :
    x.view = .detail ∧ y.detail.map Record.id = some target := by
  cases turn with
  | stay => exact absurd hy (hx _ _ _)
  | fill form => exact absurd hy (hx _ _ _)
  | @browse v f d browsing form =>
    obtain rfl : v = .confirm action target back := hy
    exact absurd browsing Bool.false_ne_true
  | ask view detail able =>
    cases hy
    exact ⟨view, congrArg (·.map Record.id) detail⟩
  | answer view => exact absurd view (hx _ _ _)
  | prompt | add | edit | relate | source | target | details | retarget => cases hy

theorem press_of_detail {t : Tab} (he : t.editors = []) (hv : t.view = .detail) (k : Key) :
    t.press k = { t with error := none, notice := none }.pressDetail k := by
  simp only [press, he, pressView, hv]

/-- A question is only opened while its slot is free. -/
theorem free_of_pressDetail {t : Tab} {k : Key} {action : ConfirmAction} {target : String} {back : View}
    (hv : t.view = .detail) (h : (t.pressDetail k).1.view = .confirm action target back) :
    t.requests.isPending .confirm = false := by
  have opened {a : ConfirmAction} {id : String}
      (h : (t.openConfirm a id).1.view = .confirm action target back) :
      t.requests.isPending .confirm = false := by
    unfold openConfirm at h
    split at h
    · cases hv.symm.trans h
    · next hfree => exact Bool.not_eq_true _ ▸ hfree
  have unopened (h : t.view = .confirm action target back) : t.requests.isPending .confirm = false := by
    cases hv.symm.trans h
  have listed (h : t.listView = .confirm action target back) :
      t.requests.isPending .confirm = false := by
    rcases listView_eq t with hl | hl <;> cases hl.symm.trans h
  unfold pressDetail at h
  split at h
  · exact listed h
  · next r _ =>
    split at h
    · split at h
      · have hview : (t.editDetail r).1.view = .edit := congrArg Face.view (face_refreshScopes _)
        cases hview.symm.trans h
      · exact unopened h
    · split at h
      · unfold archiveDetail at h
        split at h
        · exact unopened h
        · exact opened h
      · exact unopened h
    · split at h
      · exact opened h
      · exact unopened h
    · have hview : (t.issue .detail 0 (.get t.kind r.id)).1.view = t.view :=
        congrArg Face.view (face_issue t _ _ _)
      exact unopened (hview.symm.trans h)
    · exact listed h
    · exact listed h
    · exact unopened h

/-! ## The question is answered -/

theorem press_of_confirm {t : Tab} (he : t.editors = []) {action : ConfirmAction} {target : String}
    {back : View} (hv : t.view = .confirm action target back) (k : Key) :
    t.press k = { t with error := none, notice := none }.pressConfirm action target back k := by
  simp only [press, he, pressView, hv]

/-- With its slot free, a yes goes out at once. -/
theorem press_yes {t : Tab} (he : t.editors = []) {action : ConfirmAction} {target : String} {back : View}
    (hv : t.view = .confirm action target back) (hfree : t.requests.isPending .confirm = false) {k : Key}
    (hk : k ∈ [.char 'y', .char 'Y']) :
    t.press k =
      ({ t with
          view := back, error := none, notice := none, requests := t.requests.set .confirm .pending },
        [⟨t.kind, .confirm, 0, action.request t.kind target⟩]) := by
  have yes := issue_of_free (t := { t with view := back, error := none, notice := none }) hfree 0
    (action.request t.kind target)
  rw [press_of_confirm he hv]
  simp only [List.mem_cons, List.not_mem_nil, or_false] at hk
  rcases hk with rfl | rfl
  · exact yes
  · exact yes

theorem press_no {t : Tab} (he : t.editors = []) {action : ConfirmAction} {target : String} {back : View}
    (hv : t.view = .confirm action target back) {k : Key} (hk : k ∈ [.char 'n', .char 'N', .esc]) :
    t.press k = ({ t with view := back, error := none, notice := none }, []) := by
  rw [press_of_confirm he hv]
  simp only [List.mem_cons, List.not_mem_nil, or_false] at hk
  rcases hk with rfl | rfl | rfl
  · rfl
  · rfl
  · rfl

theorem press_undecided {t : Tab} (he : t.editors = []) {action : ConfirmAction} {target : String}
    {back : View} (hv : t.view = .confirm action target back) {k : Key}
    (hyes : k ∉ [.char 'y', .char 'Y']) (hno : k ∉ [.char 'n', .char 'N', .esc]) :
    t.press k = ({ t with error := none, notice := none }, []) := by
  rw [press_of_confirm he hv]
  unfold pressConfirm
  dsimp only
  split
  · exact absurd (List.mem_cons_self) hyes
  · exact absurd (by simp) hyes
  · exact absurd (by simp) hno
  · exact absurd (by simp) hno
  · exact absurd (by simp) hno
  · rfl

/-! ## Every event -/

theorem free_deliver {t : Tab} (h : t.requests.isPending .confirm = false) (d : Delivery) :
    (t.deliver d).1.requests.isPending .confirm = false := by
  cases hstale : t.isStale d.slot d.generation with
  | true =>
    rw [deliver_of_isStale hstale]
    exact h
  | false =>
    cases ho : d.outcome with
    | error message =>
      rw [deliver_error hstale ho]
      exact Dialogue.isPending_failAll t d.slot message .confirm
    | ok a =>
      -- The slot that is answered becomes free first; what the answer issues is at most a query.
      have hidle : (t.requests.set d.slot .idle).isPending .confirm = false := by
        by_cases hs : Slot.confirm = d.slot
        · rw [← hs]
          exact Dialogue.isPending_set_self _ _ _
        · rw [Dialogue.isPending_set_ne hs]
          exact h
      have hnone : ∀ c ∈ (t.deliver d).2, c.slot ≠ .confirm := by
        rcases commands_of_heard (heard_deliver t d) with hc | hc
        · rw [hc]
          exact List.forall_mem_nil _
        · rw [hc]
          exact List.forall_mem_singleton.2 Slot.noConfusion
      rw [deliver_ok hstale ho] at hnone ⊢
      by_cases hs : d.slot = .load
      · rw [hs] at hnone ⊢
        obtain ⟨u, hu, htraffic, -⟩ :=
          applyAnswer_load { t with requests := t.requests.set .load .idle } d.generation a
        rw [hu]
        rw [hs] at hidle
        exact (congrArg (·.requests.isPending .confirm) htraffic).trans hidle
      · exact ((move_applyAnswer hs _ d.generation a).isPending hnone).trans hidle

/-- An open question is left, whatever the answer, or stays as it was. -/
theorem Poised.press {t : Tab} {target : String} (h : t.Poised target) (hc : t.Coherent)
    {action : ConfirmAction} {back : View} (hv : t.view = .confirm action target back) (k : Key) :
    (t.press k).1.Ready := by
  have suits := hc.suits
  rw [hv] at suits
  obtain ⟨rfl, -, hform⟩ := suits
  have he := hc.editors_nil hform
  by_cases hyes : k ∈ [.char 'y', .char 'Y']
  · rw [press_yes he hv h.free hyes]
    exact fun _ _ _ hdetail => nomatch hdetail
  · by_cases hno : k ∈ [.char 'n', .char 'N', .esc]
    · rw [press_no he hv hno]
      exact fun _ _ _ hdetail => nomatch hdetail
    · rw [press_undecided he hv hyes hno]
      intro action' target' back' hsame
      cases hv.symm.trans hsame
      exact ⟨h.subject, h.free⟩

/-- A question that opens now was asked in detail, and its key sends nothing in its slot. -/
theorem Coherent.poised_press {t : Tab} (hc : t.Coherent)
    (hclosed : ∀ action target back, t.view ≠ .confirm action target back) {k : Key}
    {action : ConfirmAction} {target : String} {back : View}
    (hv : (t.press k).1.view = .confirm action target back) : (t.press k).1.Poised target := by
  obtain ⟨hdetail, subject⟩ := ask_of_turn (deed_press t k).1.turn hclosed hv
  have hdetail : t.view = .detail := hdetail
  have suits := hc.suits
  rw [hdetail] at suits
  have hnone : ∀ c ∈ (t.press k).2, c.slot ≠ .confirm := fun c hm hslot => by
    obtain ⟨-, action, target, back, hopen⟩ := confirm_of_command (e := .input (.press k)) hm hslot
    exact hclosed action target back hopen
  refine ⟨subject, ?_⟩
  rw [(move_press t k).moves.isPending hnone]
  rw [press_of_detail (hc.editors_nil suits.2) hdetail] at hv
  exact free_of_pressDetail (t := { t with error := none, notice := none }) hdetail hv

theorem Ready.press {t : Tab} (h : t.Ready) (hc : t.Coherent) (k : Key) : (t.press k).1.Ready := by
  by_cases hopen : ∃ action target back, t.view = .confirm action target back
  · obtain ⟨action, target, back, hv⟩ := hopen
    exact (h _ _ _ hv).press hc hv k
  · exact fun action target back hv =>
      hc.poised_press (fun action target back hv => hopen ⟨action, target, back, hv⟩) hv

theorem Ready.handle {t : Tab} (h : t.Ready) (hc : t.Coherent) (e : TabEvent) : (t.handle e).1.Ready := by
  cases e with
  | input i =>
    by_cases hkey : ∃ k, i = .press k
    · obtain ⟨k, rfl⟩ := hkey
      exact h.press hc k
    · intro action target back hv
      have hscene := (take_cases t i).resolve_left hkey
      have hview : (t.take i).1.view = t.view := congrArg Scene.view hscene
      have hdetail : (t.take i).1.detail = t.detail := congrArg Scene.detail hscene
      obtain ⟨subject, free⟩ := h _ _ _ (hview.symm.trans hv)
      have hnone : ∀ c ∈ (t.take i).2, c.slot ≠ .confirm := fun c hm hslot => by
        obtain ⟨⟨k, hk⟩, -⟩ := confirm_of_command (e := .input i) hm hslot
        exact hkey ⟨k, TabEvent.input.inj hk⟩
      exact ⟨hdetail ▸ subject, ((moves_take t i).isPending hnone).trans free⟩
  | deliver d =>
    have hd := heard_deliver t d
    have hfree := fun free => free_deliver (t := t) free d
    change (t.deliver d).1.Ready
    generalize t.deliver d = r at hd hfree
    have of_stage (hs : r.1.stage = t.stage) : r.1.Ready := by
      intro action target back hv
      have hview : r.1.view = t.view := congrArg (·.face.view) hs
      have hsubject : r.1.detail.map Record.id = t.detail.map Record.id := congrArg Stage.subject hs
      obtain ⟨subject, free⟩ := h _ _ _ (hview.symm.trans hv)
      exact ⟨hsubject.trans subject, hfree free⟩
    cases hd with
    | quiet hs => exact of_stage hs
    | reload hs => exact of_stage hs
    | saved hs => exact fun _ _ _ hv => nomatch hv

/-! ## Runs -/

theorem ready_after (kind : Kind) (es : List TabEvent) : (after kind es).Ready := by
  have hnew : (new kind).Ready := fun _ _ _ hv => nomatch hv
  have both := after_induction (motive := fun t => t.Coherent ∧ t.Ready) ⟨coherent_new kind, hnew⟩
    (fun t e h => ⟨h.1.handle e, h.2.handle h.1 e⟩) es
  exact both.2

/-! ## What the question says -/

/-- The question on screen says what its answer does. `back` is the view that the answer leads to. -/
structure Faithful (t : Tab) (action : ConfirmAction) (target : String) (back : View) : Prop where
  shown : ∃ r, t.detail = some r ∧ r.id = target ∧
    ∀ width, (Line.toned (action.question t.kind r.title) .header).cut width ∈ t.render width
  able : t.kind.capabilities.confirms action = true
  history : action = .revert → t.kind = .history
  free : t.requests.isPending .confirm = false
  yes : ∀ k ∈ [Key.char 'y', .char 'Y'], t.press k =
    ({ t with view := back, error := none, notice := none, requests := t.requests.set .confirm .pending },
      [⟨t.kind, .confirm, 0, action.request t.kind target⟩])
  no : ∀ k ∈ [Key.char 'n', .char 'N', .esc], t.press k =
    ({ t with view := back, error := none, notice := none }, [])
  undecided : ∀ k ∉ [Key.char 'y', .char 'Y'] ++ [.char 'n', .char 'N', .esc], t.press k =
    ({ t with error := none, notice := none }, [])

theorem mem_render_question {t : Tab} {action : ConfirmAction} {target : String} {back : View}
    (hv : t.view = .confirm action target back) {r : Record} (hr : t.detail = some r) (width : Nat) :
    (Line.toned (action.question t.kind r.title) .header).cut width ∈ t.render width := by
  have hline : Line.toned (action.question t.kind r.title) .header ∈ t.confirmLines action := by
    unfold confirmLines
    rw [hr]
    cases action with
    | archive => exact List.mem_cons_self
    | revert => exact List.mem_cons_self
  have hview : t.viewLines = t.confirmLines action := by
    unfold viewLines
    rw [hv]
  refine List.mem_map_of_mem (List.mem_cons_of_mem _ (List.mem_append_left _ ?_))
  rw [hview]
  exact hline

theorem history_of_revert {kind : Kind} (h : kind.capabilities.revert = true) : kind = .history := by
  cases kind with
  | history => rfl
  | entities | relationships | jobs | logs | protocols => exact absurd h Bool.false_ne_true

/-- Whatever has come to a tab: a question that is open says what its answer does. -/
theorem question_faithful (kind : Kind) (es : List TabEvent) {action : ConfirmAction} {target : String}
    {back : View} (hv : (after kind es).view = .confirm action target back) :
    (after kind es).Faithful action target back := by
  have hc := coherent_after kind es
  have hopens := opens_after kind es
  obtain ⟨subject, free⟩ := ready_after kind es _ _ _ hv
  generalize after kind es = t at *
  rw [hv] at hopens
  have suits := hc.suits
  rw [hv] at suits
  have he := hc.editors_nil suits.2.2
  obtain ⟨r, hr, hid⟩ := Option.map_eq_some_iff.1 subject
  exact {
    shown := ⟨r, hr, hid, mem_render_question hv hr⟩
    able := hopens.1
    history := by
      rintro rfl
      exact history_of_revert hopens.1
    free
    yes := fun k hk => press_yes he hv free hk
    no := fun k hk => press_no he hv hk
    undecided := fun k hk => by
      obtain ⟨hyes, hno⟩ := not_or.1 (mt List.mem_append.2 hk)
      exact press_undecided he hv hyes hno }

/-- A job is about to be archived when a newer state of it comes in. -/
def archivingJob : List TabEvent :=
  [.input .activate, .deliver ⟨.jobs, .load, 1, .ok (.records [.named .jobs "job-1" "Night shift"])⟩,
    .input (.press .enter), .input (.press (.char 'a')),
    .deliver ⟨.jobs, .detail, 0, .ok (.record (.named .jobs "job-1" "Day shift"))⟩]

/-- The question names it anew, and a yes archives it. -/
theorem archivingJob_faithful :
    let t := after .jobs archivingJob
    t.view = .confirm .archive "job-1" .detail ∧ t.Faithful .archive "job-1" .detail ∧
      t.detail.map Record.title = some "Day shift" ∧
      ConfirmAction.archive.question .jobs "Day shift" = "archive job Day shift?" ∧
      (t.press (.char 'y')).2.map (·.request.describe) = ["update jobs/job-1"] :=
  ⟨rfl, question_faithful .jobs archivingJob rfl, rfl, by decide, rfl⟩

end Tab

end RecordDesk
