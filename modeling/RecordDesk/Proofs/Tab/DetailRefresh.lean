import RecordDesk.Proofs.Tab.Bench
import RecordDesk.Proofs.Tab.Permissions
import RecordDesk.Proofs.Tab.Quiescence
import RecordDesk.Proofs.Tab.UntouchedForm

/-!
What Enter on a row asks for. The record is shown as the row has it, and asked for anew, unless the question for a
record is still unanswered: the slot is for one question at a time, and it does not matter which record that one is
about (`detail_shown_or_busy`). So the record shown may be one that nobody has asked for (`detail_not_asked_for`).
What arrives then is about another record, and is not shown in its place: until the next key the record in detail
stays the same one, and only a newer state of it can come (`Shows.handle`).
-/

namespace RecordDesk

/-- The event is no key. -/
def DialogueEvent.isKeyless : DialogueEvent → Bool
  | .input (.press _) => false
  | _ => true

/-- Some answer among the events has this record. -/
def Brought (es : List DialogueEvent) (r : Record) : Prop := ∃ n, .answer n (.ok (.record r)) ∈ es

theorem Kind.Allows.get_of_detail {k : Kind} {c : Command} (h : k.Allows c) (hslot : c.slot = .detail) :
    ∃ id, c.request = .get k id := by
  cases h with
  | get generation id => exact ⟨id, rfl⟩
  | _ => cases hslot

namespace Tab

/-- Keys land on a row of the list, which is the row of `r`. -/
structure OnRow (t : Tab) (r : Record) : Prop where
  view : t.view.isList = true
  focus : t.focus = .rows
  selected : t.selected? = some r

/-- The record is shown in detail. -/
structure Shows (t : Tab) (r : Record) : Prop where
  view : t.view = .detail
  detail : t.detail = some r

/-! ## Enter on a row -/

theorem OnRow.press_enter {t : Tab} {r : Record} (h : t.OnRow r) (he : t.editors = []) :
    (t.press .enter).1.Shows r ∧ (t.press .enter).2 =
      if t.requests.isPending .detail then [] else [⟨t.kind, .detail, 0, .get t.kind r.id⟩] := by
  have henter : t.press .enter = { t with error := none, notice := none, detail := some r, view := .detail }.issue
      .detail 0 (.get t.kind r.id) :=
    (press_of_rows he h.view h.focus .enter).trans
      (openDetail_of_selected (t := { t with error := none, notice := none }) h.selected)
  have hscene := congrArg (fun x => x.1.scene) henter
  rw [scene_issue] at hscene
  refine ⟨⟨congrArg Scene.view hscene, congrArg Scene.detail hscene⟩, ?_⟩
  rw [henter, commands_issue]

/-! ## Until the next key -/

theorem Shows.handle {t : Tab} {r : Record} (h : t.Shows r) (hc : t.Coherent) {e : TabEvent}
    (he : ∀ k, e ≠ .input (.press k)) :
    ∃ r', (t.handle e).1.Shows r' ∧ r'.id = r.id ∧ (r' = r ∨ e.Brings r') := by
  cases e with
  | input i =>
    have hscene := (take_cases t i).resolve_left fun ⟨k, hk⟩ => he k (hk ▸ rfl)
    exact ⟨r, ⟨(congrArg Scene.view hscene).trans h.view, (congrArg Scene.detail hscene).trans h.detail⟩, rfl, .inl rfl⟩
  | deliver d =>
    have hnone : t.form = none := hc.consistent.form_none (by rw [h.view]; rfl)
    have hstage : (t.deliver d).1.stage = t.stage := by
      have heard := heard_deliver t d
      generalize t.deliver d = u at heard
      cases heard with
      | quiet hs => exact hs
      | reload hs => exact hs
      | saved hs slot outcome owns =>
        -- There is no form that the answer could close.
        unfold ownsForm at owns
        simp [hnone] at owns
    have hview : (t.deliver d).1.view = .detail := (congrArg (·.face.view) hstage).trans h.view
    have hid : (t.deliver d).1.detail.map Record.id = some r.id := by
      rw [show (t.deliver d).1.detail.map Record.id = t.detail.map Record.id from congrArg Stage.subject hstage,
        h.detail]
      rfl
    rcases detail_deliver t d with hsame | ⟨r', hbrings, hdetail⟩
    · exact ⟨r, ⟨hview, hsame.trans h.detail⟩, rfl, .inl rfl⟩
    · rw [hdetail, Option.map_some, Option.some.injEq] at hid
      exact ⟨r', ⟨hview, hdetail⟩, hid, .inr hbrings⟩

end Tab

namespace Dialogue

/-! ## Runs -/

/-- A step is an event of the tab, if anything. -/
theorem step_cases (d : Dialogue) (e : DialogueEvent) : d.step e = d ∨
    ∃ ev cs, d.step e = ⟨(d.tab.handle ev).1, cs ++ (d.tab.handle ev).2⟩ ∧ (∀ c ∈ cs, c ∈ d.unanswered) ∧
      (e.isKeyless = true → ∀ k, ev ≠ .input (.press k)) ∧ ∀ r, ev.Brings r → Brought [e] r := by
  cases e with
  | input i =>
    refine .inr ⟨.input i, d.unanswered, rfl, fun c hc => hc, ?_, fun r ⟨_, hd, _⟩ => by cases hd⟩
    rintro hkeyless k hk
    cases hk
    cases hkeyless
  | answer n outcome =>
    cases hc : d.unanswered[n]? with
    | none =>
      left
      simp only [step, hc]
    | some c =>
      have hstep : d.step (.answer n outcome) = ⟨(d.tab.handle (.deliver (c.delivery outcome))).1,
          d.unanswered.eraseIdx n ++ (d.tab.handle (.deliver (c.delivery outcome))).2⟩ := by
        simp only [step, hc]
        rfl
      refine .inr ⟨.deliver (c.delivery outcome), d.unanswered.eraseIdx n, hstep,
        fun b hb => List.mem_of_mem_eraseIdx hb, fun _ k hk => ?_, ?_⟩
      · cases hk
      · rintro r ⟨_, hd, ho⟩
        cases hd
        obtain rfl : outcome = .ok (.record r) := ho
        exact ⟨n, List.mem_singleton_self _⟩

theorem runFrom_cons (d : Dialogue) (e : DialogueEvent) (es : List DialogueEvent) :
    d.runFrom (e :: es) = (d.step e).runFrom es := rfl

/-- The tab of a dialogue is one that some events lead to, and what is unanswered is what its kind allows. -/
theorem exists_after (kind : Kind) (es : List DialogueEvent) :
    (∃ fs, (run kind es).tab = Tab.after kind fs) ∧ ∀ c ∈ (run kind es).unanswered, kind.Allows c := by
  induction es using List.reverseRecOn with
  | nil => exact ⟨⟨[], rfl⟩, List.forall_mem_nil _⟩
  | append_singleton es e ih =>
    obtain ⟨⟨fs, hfs⟩, hallows⟩ := ih
    rw [run_append]
    show (∃ fs, ((run kind es).step e).tab = _) ∧ ∀ c ∈ ((run kind es).step e).unanswered, kind.Allows c
    rcases (run kind es).step_cases e with hsame | ⟨ev, cs, hstep, hcs, -, -⟩
    · rw [hsame]
      exact ⟨⟨fs, hfs⟩, hallows⟩
    · rw [hstep, hfs]
      have hissued := (Tab.permitted_handle (Tab.opens_after kind fs) ev).allows
      rw [Tab.kind_after] at hissued
      exact ⟨⟨fs ++ [ev], (Tab.after_concat kind fs ev).symm⟩,
        List.forall_mem_append.2 ⟨fun c hc => hallows c (hcs c hc), hissued⟩⟩

theorem shows_runFrom {d : Dialogue} {r : Record} (h : d.tab.Shows r) (hc : d.tab.Coherent) {es : List DialogueEvent}
    (hes : ∀ e ∈ es, e.isKeyless = true) :
    ∃ r', (d.runFrom es).tab.Shows r' ∧ r'.id = r.id ∧ (r' = r ∨ Brought es r') := by
  induction es generalizing d r with
  | nil => exact ⟨r, h, rfl, .inl rfl⟩
  | cons e es ih =>
    have hrest : ∀ e ∈ es, e.isKeyless = true := fun e he => hes e (List.mem_cons_of_mem _ he)
    rw [runFrom_cons]
    have later {r' : Record} (h' : r' = r ∨ Brought es r') : r' = r ∨ Brought (e :: es) r' :=
      h'.imp id fun ⟨n, hn⟩ => ⟨n, List.mem_cons_of_mem e hn⟩
    rcases d.step_cases e with hsame | ⟨ev, cs, hstep, -, hkeyless, hbrings⟩
    · rw [hsame]
      obtain ⟨r', hshows, hid, hsince⟩ := ih h hc hrest
      exact ⟨r', hshows, hid, later hsince⟩
    · rw [hstep]
      obtain ⟨r₁, hshows₁, hid₁, hsince₁⟩ := h.handle hc (hkeyless (hes e List.mem_cons_self))
      obtain ⟨r', hshows, hid, hsince⟩ :=
        ih (d := ⟨(d.tab.handle ev).1, cs ++ (d.tab.handle ev).2⟩) hshows₁ (hc.handle ev) hrest
      refine ⟨r', hshows, hid.trans hid₁, ?_⟩
      rcases hsince with rfl | ⟨n, hn⟩
      · refine hsince₁.imp id fun hb => ?_
        obtain ⟨n, hn⟩ := hbrings _ hb
        exact ⟨n, List.mem_cons.2 (.inl (List.mem_singleton.1 hn))⟩
      · exact .inr ⟨n, List.mem_cons_of_mem e hn⟩

/-- Enter on a row shows its record in detail, and asks for that record, or finds the slot busy: then it asks for
nothing, and some record has been asked for, not necessarily this one, and not been answered. Until the next key the
record in detail is the same one, and nothing but an answer with its id changes it. -/
theorem detail_shown_or_busy (kind : Kind) (es : List DialogueEvent) {r : Record}
    (h : (run kind es).tab.OnRow r) :
    let d := run kind es
    let d' := d.step (.input (.press .enter))
    d'.tab.Shows r ∧
      (d'.unanswered = d.unanswered ++ [⟨kind, .detail, 0, .get kind r.id⟩] ∨
        d'.unanswered = d.unanswered ∧ ∃ c ∈ d.unanswered, c.slot = .detail ∧ ∃ id, c.request = .get kind id) ∧
      ∀ fs, (∀ e ∈ fs, e.isKeyless = true) →
        ∃ r', (d'.runFrom fs).tab.Shows r' ∧ r'.id = r.id ∧ (r' = r ∨ Brought fs r') := by
  intro d d'
  obtain ⟨⟨ts, hts⟩, hallows⟩ := exists_after kind es
  have hc : d.tab.Coherent := hts ▸ Tab.coherent_after kind ts
  have hkind : d.tab.kind = kind := hts ▸ Tab.kind_after kind ts
  have he : d.tab.editors = [] := hc.editors_nil (hc.form_none (View.eq_of_isList h.view))
  obtain ⟨hshows, hsent⟩ := h.press_enter he
  have hunanswered : d'.unanswered = d.unanswered ++ (d.tab.press .enter).2 := rfl
  refine ⟨hshows, ?_, fun fs hfs => shows_runFrom hshows (hc.handle (.input (.press .enter))) hfs⟩
  rw [hunanswered, hsent]
  split
  · next hpending =>
    obtain ⟨c, hmem, hslot, -⟩ := (awaited_run kind es).awaits .detail hpending
    exact .inr ⟨List.append_nil _, c, hmem, hslot, (hallows c hmem).get_of_detail hslot⟩
  · rw [hkind]
    exact .inl rfl

/-- Two jobs are listed, the first one is opened and left again, and the second one is selected. -/
def leavingFirst : List DialogueEvent :=
  [.input .activate, .answer 0 (.ok (.records [.named .jobs "job-1" "Day shift", .named .jobs "job-2" "Night shift"])),
    .input (.press .enter), .input (.press .esc), .input (.press .down)]

/-- When the first job has been answered, the second one is asked for. -/
theorem detail_shown_second :
    let es := leavingFirst ++ [.answer 0 (.ok (.record (.named .jobs "job-1" "Day shift")))]
    (run .jobs es).tab.OnRow (.named .jobs "job-2" "Night shift") ∧
      ((run .jobs es).step (.input (.press .enter))).tab.Shows (.named .jobs "job-2" "Night shift") ∧
      ((run .jobs es).step (.input (.press .enter))).unanswered = [⟨.jobs, .detail, 0, .get .jobs "job-2"⟩] := by
  intro es
  have hrow : (run .jobs es).tab.OnRow (.named .jobs "job-2" "Night shift") := ⟨rfl, rfl, rfl⟩
  obtain ⟨hshows, hasked, -⟩ := detail_shown_or_busy .jobs es hrow
  refine ⟨hrow, hshows, ?_⟩
  rcases hasked with hasked | ⟨-, c, hc, -⟩
  · exact hasked
  · exact absurd hc List.not_mem_nil

/-- Before, nobody asks for the second job: not the key that shows it, and no question that is unanswered. -/
theorem detail_not_asked_for :
    ¬ ∀ (kind : Kind) (es : List DialogueEvent) (r : Record), (run kind es).tab.OnRow r →
      ∃ c ∈ ((run kind es).step (.input (.press .enter))).unanswered, c.request = .get kind r.id := by
  intro h
  obtain ⟨c, hc, hrequest⟩ := h .jobs leavingFirst (.named .jobs "job-2" "Night shift") ⟨rfl, rfl, rfl⟩
  have hall : ((run .jobs leavingFirst).step (.input (.press .enter))).unanswered =
      [⟨.jobs, .detail, 0, .get .jobs "job-1"⟩] := rfl
  rw [hall, List.mem_singleton] at hc
  rw [hc] at hrequest
  simp [Record.named] at hrequest

end Dialogue

end RecordDesk
