import RecordDesk.Proofs.Tab.InFlight

/-!
A slot is pending only while one of its commands is unanswered (`isPending_eq_false_of_answered`): no
save, bulk edit, confirmation or query stays blocked once its answers have come, whatever they were and
in whatever order they came.

In the middle of a run the flags and the commands drift apart. A failure frees slots whose commands are
still under way, and the answer to a query that is out of date is dropped with the slot left pending. The
other way round they agree: a pending slot has an unanswered command whose answer will not be dropped,
and that is what every step keeps (`Awaited`).
-/

namespace RecordDesk.Dialogue

/-- Nothing is pending without an unanswered command whose answer will be taken. The queries of the
picker never make their slot pending. -/
structure Awaited (d : Dialogue) : Prop where
  awaits : ∀ slot, d.tab.requests.isPending slot = true →
    ∃ c ∈ d.unanswered, c.slot = slot ∧ d.tab.isStale slot c.generation = false
  candidates : d.tab.requests.isPending .candidates = false

/-- In a slot the tab has the same state and expects the same deliveries as before. -/
structure SameSlot (t u : Tab) (slot : Slot) : Prop where
  pending : u.requests.isPending slot = t.requests.isPending slot
  expects : u.currentGeneration? slot = t.currentGeneration? slot

theorem SameSlot.isStale {t u : Tab} {slot : Slot} (h : SameSlot t u slot) (generation : Nat) :
    u.isStale slot generation = t.isStale slot generation := by
  unfold Tab.isStale
  rw [h.expects]

theorem sameSlot_of_traffic {t u : Tab} (h : u.traffic = t.traffic) (slot : Slot) : SameSlot t u slot := by
  have hr : u.requests = t.requests := congrArg Traffic.requests h
  have hg : u.generation = t.generation := congrArg Traffic.generation h
  have hp : u.picker.generation = t.picker.generation := congrArg Traffic.candidatesGeneration h
  refine ⟨by rw [hr], ?_⟩
  unfold Tab.currentGeneration?
  rw [hg, hp]

/-- What a query of the rows or a request does to the slots other than its own: nothing. -/
theorem sameSlot_of_ne {t u : Tab} {own slot : Slot} (h : slot ≠ own) (x : RequestState)
    (hg : own ≠ .load → u.generation = t.generation)
    (hp : own ≠ .candidates → u.picker.generation = t.picker.generation)
    (hr : u.requests = t.requests.set own x) : SameSlot t u slot := by
  refine ⟨by rw [hr, isPending_set_ne h], ?_⟩
  cases slot with
  | load => exact congrArg some (hg (Ne.symm h))
  | candidates => exact congrArg some (hp (Ne.symm h))
  | _ => rfl

/-! ## Steps -/

/-- With one more command, which will be answered in its slot, and the other slots as they were. -/
theorem Awaited.concat {t u : Tab} {cs : List Command} (h : Awaited ⟨t, cs⟩) {c : Command}
    (hown : u.isStale c.slot c.generation = false)
    (hother : ∀ slot, slot ≠ c.slot → SameSlot t u slot)
    (hcand : u.requests.isPending .candidates = false) : Awaited ⟨u, cs ++ [c]⟩ := by
  refine ⟨fun slot hp => ?_, hcand⟩
  by_cases hslot : slot = c.slot
  · subst hslot
    exact ⟨c, List.mem_append_right cs (List.mem_singleton_self c), rfl, hown⟩
  · have hsame := hother slot hslot
    obtain ⟨b, hb, hbslot, hs⟩ := h.awaits slot (hsame.pending ▸ hp)
    exact ⟨b, List.mem_append_left [c] hb, hbslot, (hsame.isStale b.generation).trans hs⟩

theorem Awaited.withTab {t u : Tab} {cs : List Command} (h : Awaited ⟨t, cs⟩) (hu : u.traffic = t.traffic) :
    Awaited ⟨u, cs⟩ := by
  have hsame := sameSlot_of_traffic hu
  refine ⟨fun slot hp => ?_, (hsame .candidates).pending.trans h.candidates⟩
  obtain ⟨b, hb, hbslot, hs⟩ := h.awaits slot ((hsame slot).pending ▸ hp)
  exact ⟨b, hb, hbslot, ((hsame slot).isStale b.generation).trans hs⟩

theorem awaited_follow_move {t : Tab} {cs : List Command} {r : Tab × List Command}
    (h : Awaited ⟨t, cs⟩) (hm : t.Move r) : Awaited ⟨r.1, cs ++ r.2⟩ := by
  cases hm with
  | quiet hs =>
    rw [List.append_nil]
    exact h.withTab (congrArg Standing.traffic hs)
  | @load u hs =>
    have hu : Awaited ⟨u, cs⟩ := h.withTab hs
    have hother (slot : Slot) (hslot : slot ≠ .load) : SameSlot u u.reload.1 slot :=
      sameSlot_of_ne hslot .pending (fun hne => absurd rfl hne) (fun _ => rfl) rfl
    refine hu.concat ?_ hother ?_
    · show (u.generation + 1 != u.generation + 1) = false
      exact bne_self_eq_false _
    · exact (hother .candidates Slot.noConfusion).pending.trans hu.candidates
  | @candidates u hs =>
    have hu : Awaited ⟨u, cs⟩ := h.withTab (congrArg Standing.traffic hs)
    refine hu.concat ?_ (fun slot hslot => ⟨rfl, ?_⟩) hu.candidates
    · show (u.picker.generation + 1 != u.picker.generation + 1) = false
      exact bne_self_eq_false _
    · cases slot with
      | candidates => exact absurd rfl hslot
      | _ => rfl
  | @request u own generation req hs gated free admits =>
    have hu : Awaited ⟨u, cs⟩ := h.withTab (congrArg Standing.traffic hs)
    have hother (slot : Slot) (hslot : slot ≠ own) : SameSlot u (u.start own generation req).1 slot :=
      sameSlot_of_ne hslot .pending (fun _ => rfl) (fun _ => rfl) rfl
    refine hu.concat (Tab.isStale_of_isGated gated _ _) hother ?_
    have hne : Slot.candidates ≠ own := by
      rintro rfl
      exact Bool.false_ne_true gated
    exact (hother .candidates hne).pending.trans hu.candidates

/-- Another command than the one at `n` stays when that one is taken out. -/
theorem mem_eraseIdx_of_ne {cs : List Command} {b c : Command} (hb : b ∈ cs) {n : Nat}
    (hc : cs[n]? = some c) (hne : b ≠ c) : b ∈ cs.eraseIdx n := by
  obtain ⟨m, hm⟩ := List.mem_iff_getElem?.1 hb
  refine List.mem_eraseIdx_iff_getElem?.2 ⟨m, ?_, hm⟩
  rintro rfl
  exact hne (Option.some.inj (hm.symm.trans hc))

/-- A command whose answer is dropped is nothing that a slot waits for. -/
theorem awaited_answer_stale {d : Dialogue} (h : d.Awaited) {n : Nat} {c : Command}
    (hc : d.unanswered[n]? = some c) (outcome : Except String Answer)
    (hs : d.tab.isStale c.slot c.generation = true) : (d.step (.answer n outcome)).Awaited := by
  simp only [step, hc, Tab.deliver_of_isStale (d := c.delivery outcome) hs, List.append_nil]
  refine ⟨fun slot hp => ?_, h.candidates⟩
  obtain ⟨b, hb, hslot, hbs⟩ := h.awaits slot hp
  refine ⟨b, mem_eraseIdx_of_ne hb hc ?_, hslot, hbs⟩
  rintro rfl
  rw [hslot, hbs] at hs
  cases hs

theorem awaited_answer_error {d : Dialogue} {n : Nat} {c : Command} (hc : d.unanswered[n]? = some c)
    (message : String) (hs : d.tab.isStale c.slot c.generation = false) :
    (d.step (.answer n (.error message))).Awaited := by
  simp only [step, hc, Tab.deliver_error (d := c.delivery (.error message)) hs rfl]
  refine ⟨fun slot hp => ?_, isPending_failAll d.tab _ message .candidates⟩
  exact absurd hp (Bool.eq_false_iff.1 (isPending_failAll d.tab c.slot message slot))

/-- An answer that is taken frees its slot, and the commands of the other slots stay. -/
theorem awaited_answer_ok {d : Dialogue} (h : d.Awaited) {n : Nat} {c : Command}
    (hc : d.unanswered[n]? = some c) (a : Answer) (hs : d.tab.isStale c.slot c.generation = false) :
    (d.step (.answer n (.ok a))).Awaited := by
  have hfreed : Awaited
      ⟨{ d.tab with requests := d.tab.requests.set c.slot .idle }, d.unanswered.eraseIdx n⟩ := by
    have hother (slot : Slot) (hslot : slot ≠ c.slot) :
        SameSlot d.tab { d.tab with requests := d.tab.requests.set c.slot .idle } slot :=
      sameSlot_of_ne hslot .idle (fun _ => rfl) (fun _ => rfl) rfl
    have hidle : (d.tab.requests.set c.slot .idle).isPending c.slot = false := isPending_set_self _ _ _
    refine ⟨fun slot hp => ?_, ?_⟩
    · have hslot : slot ≠ c.slot := by
        rintro rfl
        exact Bool.false_ne_true (hidle.symm.trans hp)
      obtain ⟨b, hb, hbslot, hbs⟩ := h.awaits slot ((hother slot hslot).pending ▸ hp)
      refine ⟨b, mem_eraseIdx_of_ne hb hc ?_, hbslot, hbs⟩
      rintro rfl
      exact hslot hbslot.symm
    · by_cases hslot : Slot.candidates = c.slot
      · rw [hslot]
        exact hidle
      · exact (hother .candidates hslot).pending.trans h.candidates
  simp only [step, hc, Tab.deliver_ok (d := c.delivery (.ok a)) hs rfl]
  by_cases hl : c.slot = .load
  · obtain ⟨u, happly, htraffic, -⟩ := Tab.applyAnswer_load
      { d.tab with requests := d.tab.requests.set c.slot .idle } c.generation a
    simp only [Command.delivery, hl] at happly htraffic hfreed ⊢
    rw [happly, List.append_nil]
    exact hfreed.withTab htraffic
  · exact awaited_follow_move hfreed (Tab.move_applyAnswer hl _ _ a)

theorem awaited_step {d : Dialogue} (h : d.Awaited) (e : DialogueEvent) : (d.step e).Awaited := by
  cases e with
  | input i =>
    exact (Tab.moves_take d.tab i).preserves (fun t cs => Awaited ⟨t, cs⟩) awaited_follow_move h
  | answer n outcome =>
    cases hc : d.unanswered[n]? with
    | none =>
      simp only [step, hc]
      exact h
    | some c =>
      cases hs : d.tab.isStale c.slot c.generation with
      | true => exact awaited_answer_stale h hc outcome hs
      | false =>
        cases outcome with
        | error message => exact awaited_answer_error hc message hs
        | ok a => exact awaited_answer_ok h hc a hs

/-! ## Runs -/

theorem awaited_new (kind : Kind) : (new kind).Awaited := by
  have hidle (slot : Slot) : Requests.idle.isPending slot = false := by
    unfold Requests.isPending
    rw [Requests.get_idle]
    rfl
  exact ⟨fun slot hp => absurd hp (Bool.eq_false_iff.1 (hidle slot)), hidle .candidates⟩

theorem awaited_run (kind : Kind) (es : List DialogueEvent) : (run kind es).Awaited := by
  exact List.foldlRecOn es step (awaited_new kind) fun _ h e _ => awaited_step h e

/-- After any run, a slot of which all commands have been answered is not pending. So once every
command has been answered, nothing is. -/
theorem isPending_eq_false_of_answered (kind : Kind) (es : List DialogueEvent) :
    (∀ slot, (run kind es).underWay slot = 0 → (run kind es).tab.requests.isPending slot = false) ∧
      ((run kind es).unanswered = [] → (run kind es).tab.requests.anyPending = false) := by
  have hslot : ∀ slot, (run kind es).underWay slot = 0 →
      (run kind es).tab.requests.isPending slot = false := by
    intro slot hnone
    refine Bool.eq_false_iff.2 fun hp => ?_
    obtain ⟨c, hc, hcslot, -⟩ := (awaited_run kind es).awaits slot hp
    exact List.countP_eq_zero.1 hnone c hc (decide_eq_true hcslot)
  refine ⟨hslot, fun hall => ?_⟩
  unfold Requests.anyPending
  rw [List.any_eq_false]
  intro slot _
  rw [hslot slot]
  · exact Bool.false_ne_true
  · unfold underWay
    rw [hall]
    rfl

/-- A job is saved twice around the failure of the newest of two queries for the rows; then the older
query fails, the second save is taken for a list of names, and the first one fails. -/
def answeredOutOfOrder : List DialogueEvent :=
  [.input .activate, .input (.press .up), .input (.press .enter), .input (.press (.char 'a')),
    .input (.press (.ctrl 's')), .input .reload, .answer 2 (.error "offline"), .input (.press (.ctrl 's')),
    .answer 0 (.error "late"), .answer 1 (.ok (.names [])), .answer 0 (.error "offline")]

theorem nothing_pending_answeredOutOfOrder :
    let d := run .jobs answeredOutOfOrder
    d.unanswered = [] ∧ (∀ slot, d.underWay slot = 0) ∧ d.tab.requests.anyPending = false ∧
      (∀ slot, d.tab.requests.isPending slot = false) ∧
      (run .jobs (answeredOutOfOrder.take 8)).tab.requests.isPending .save = true := by
  have hall : (run .jobs answeredOutOfOrder).unanswered = [] := rfl
  have hnone (slot : Slot) : (run .jobs answeredOutOfOrder).underWay slot = 0 := by
    unfold underWay
    rw [hall]
    rfl
  obtain ⟨hslot, hany⟩ := isPending_eq_false_of_answered .jobs answeredOutOfOrder
  exact ⟨hall, hnone, hany hall, fun slot => hslot slot (hnone slot), rfl⟩

end RecordDesk.Dialogue
