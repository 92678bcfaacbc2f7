import RecordDesk.Proofs.Tab.Steps

/-!
How many commands of a slot can be unanswered at once. A slot that is pending takes no request, but a
failure anywhere frees all slots, also those whose command is still under way. So each failure in
another slot lets one more command out: `underWay_le`, counted from any moment at which nothing of the
slot was unanswered. Without such a failure there is never a second one; with one failure there can be
two (`two_creates_underWay`).
-/

namespace RecordDesk

/-- A tab, and the commands that it has issued and that have not been answered, the oldest first. -/
structure Dialogue where
  tab : Tab
  unanswered : List Command

/-- An answer goes to the command at an index of those unanswered. -/
inductive DialogueEvent where
  | input (i : TabInput)
  | answer (n : Nat) (outcome : Except String Answer)

namespace Dialogue

def new (kind : Kind) : Dialogue := ⟨.new kind, []⟩

def step (d : Dialogue) : DialogueEvent → Dialogue
  | .input i => ⟨(d.tab.take i).1, d.unanswered ++ (d.tab.take i).2⟩
  | .answer n outcome =>
    match d.unanswered[n]? with
    | none => d
    | some c =>
      let r := d.tab.deliver (c.delivery outcome)
      ⟨r.1, d.unanswered.eraseIdx n ++ r.2⟩

def runFrom (d : Dialogue) (es : List DialogueEvent) : Dialogue := es.foldl step d

def run (kind : Kind) (es : List DialogueEvent) : Dialogue := (new kind).runFrom es

/-- How many commands of a slot are unanswered. -/
def underWay (d : Dialogue) (slot : Slot) : Nat := d.unanswered.countP (·.slot = slot)

/-- The event is a failure of a command in another slot, and is not dropped as out of date. -/
def failsElsewhere (d : Dialogue) (slot : Slot) : DialogueEvent → Bool
  | .answer n (.error _) =>
    d.unanswered[n]?.any fun c => c.slot ≠ slot && !d.tab.isStale c.slot c.generation
  | _ => false

/-- How many such failures there are among the events to come. -/
def failuresElsewhere (d : Dialogue) (slot : Slot) : List DialogueEvent → Nat
  | [] => 0
  | e :: es => (d.failsElsewhere slot e).toNat + (d.step e).failuresElsewhere slot es

/-! ## Slots and counts -/

theorem isPending_set_self (r : Requests) (slot : Slot) (x : RequestState) :
    (r.set slot x).isPending slot = x.isPending := by
  unfold Requests.isPending
  rw [Requests.get_set_self]

theorem isPending_set_ne {slot other : Slot} (h : other ≠ slot) (r : Requests) (x : RequestState) :
    (r.set slot x).isPending other = r.isPending other := by
  unfold Requests.isPending
  rw [Requests.get_set_ne h]

/-- After a failure nothing is pending. -/
theorem isPending_failAll (t : Tab) (slot : Slot) (message : String) (other : Slot) :
    (t.failAll slot message).requests.isPending other = false := by
  show (Requests.idle.set slot (.failed message)).isPending other = false
  by_cases h : other = slot
  · rw [h, isPending_set_self]
    rfl
  · rw [isPending_set_ne h]
    unfold Requests.isPending
    rw [Requests.get_idle]
    rfl

theorem countP_eraseIdx {p : Command → Bool} {cs : List Command} {n : Nat} {c : Command}
    (h : cs[n]? = some c) : (cs.eraseIdx n).countP p + (p c).toNat = cs.countP p := by
  induction cs generalizing n with
  | nil => simp at h
  | cons d ds ih =>
    cases n with
    | zero =>
      obtain rfl : d = c := by simpa using h
      rw [List.eraseIdx_cons_zero, List.countP_cons]
      cases p d <;> rfl
    | succ n =>
      have hd := ih (n := n) (by simpa using h)
      rw [List.eraseIdx_cons_succ, List.countP_cons, List.countP_cons]
      omega

/-! ## The invariant -/

/-- At most `extra` commands of the slot are under way without its being pending for them. -/
def Bounded (slot : Slot) (extra : Nat) (d : Dialogue) : Prop :=
  d.underWay slot ≤ extra + (d.tab.requests.isPending slot).toNat

theorem bounded_follow_move {slot : Slot} {extra : Nat} (hg : slot.isGated = true) {t : Tab}
    {cs : List Command} {r : Tab × List Command} (h : Bounded slot extra ⟨t, cs⟩) (hm : t.Move r) :
    Bounded slot extra ⟨r.1, cs ++ r.2⟩ := by
  have same {u : Tab} (hu : u.requests.isPending slot = t.requests.isPending slot) {ds : List Command}
      (hd : ds.countP (·.slot = slot) = 0) : Bounded slot extra ⟨u, cs ++ ds⟩ := by
    unfold Bounded underWay at h ⊢
    rw [List.countP_append, hd, hu]
    exact h
  cases hm with
  | quiet hs =>
    have hr := congrArg (·.traffic.requests.isPending slot) hs
    exact same hr rfl
  | @load u hs =>
    have hr : u.requests = t.requests := congrArg Traffic.requests hs
    refine same ?_ ?_
    · show (u.requests.set .load .pending).isPending slot = _
      rw [isPending_set_ne, hr]
      rintro rfl
      exact Bool.false_ne_true hg
    · cases slot <;> first | rfl | exact absurd hg Bool.false_ne_true
  | candidates hs =>
    have hr := congrArg (·.traffic.requests.isPending slot) hs
    refine same hr ?_
    cases slot <;> first | rfl | exact absurd hg Bool.false_ne_true
  | @request u other generation req hs gated free admits =>
    have hr : u.requests = t.requests := congrArg (·.traffic.requests) hs
    by_cases ho : slot = other
    · -- The slot was free, so only the `extra` ones were under way.
      subst ho
      unfold Bounded underWay at h ⊢
      rw [free] at h
      show (cs ++ [_]).countP _ ≤ extra + ((u.requests.set slot .pending).isPending slot).toNat
      rw [isPending_set_self, List.countP_append]
      simp only [List.countP_singleton, decide_true, ↓reduceIte, RequestState.isPending, Bool.toNat_true,
        Bool.toNat_false] at h ⊢
      omega
    · refine same ?_ ?_
      · show (u.requests.set other .pending).isPending slot = _
        rw [isPending_set_ne ho, hr]
      · simp [Tab.start, Ne.symm ho]

/-- The answer to a command takes it out, and frees its slot. -/
theorem bounded_answer_ok {slot : Slot} {extra : Nat} {d : Dialogue} (hg : slot.isGated = true)
    (h : Bounded slot extra d) {n : Nat} {c : Command} (hc : d.unanswered[n]? = some c) (a : Answer)
    (hs : d.tab.isStale c.slot c.generation = false) :
    Bounded slot extra (d.step (.answer n (.ok a))) := by
  have hcount := countP_eraseIdx (p := (·.slot = slot)) hc
  have hfreed : Bounded slot extra
      ⟨{ d.tab with requests := d.tab.requests.set c.slot .idle }, d.unanswered.eraseIdx n⟩ := by
    unfold Bounded underWay at h ⊢
    by_cases hslot : slot = c.slot
    · subst hslot
      have hpend : (d.tab.requests.isPending c.slot).toNat ≤ 1 := Bool.toNat_le _
      simp only [decide_true, Bool.toNat_true] at hcount
      show (d.unanswered.eraseIdx n).countP (·.slot = c.slot) ≤
        extra + ((d.tab.requests.set c.slot .idle).isPending c.slot).toNat
      rw [isPending_set_self]
      simp only [RequestState.isPending, Bool.toNat_false]
      omega
    · show (d.unanswered.eraseIdx n).countP (·.slot = slot) ≤
        extra + ((d.tab.requests.set c.slot .idle).isPending slot).toNat
      rw [isPending_set_ne hslot]
      omega
  simp only [step, hc, Tab.deliver_ok (d := c.delivery (.ok a)) hs rfl]
  by_cases hl : c.slot = .load
  · obtain ⟨u, happly, htraffic, -⟩ := Tab.applyAnswer_load
      { d.tab with requests := d.tab.requests.set c.slot .idle } c.generation a
    have hreq : u.requests = d.tab.requests.set c.slot .idle := congrArg Traffic.requests htraffic
    unfold Bounded underWay at hfreed ⊢
    simp only [Command.delivery, hl] at happly hreq hfreed ⊢
    rw [happly, hreq, List.append_nil]
    exact hfreed
  · exact bounded_follow_move hg hfreed (Tab.move_applyAnswer hl _ _ a)

/-- A failure frees the slot too, but takes a command out of it only if it was its own. -/
theorem bounded_answer_error {slot : Slot} {extra : Nat} {d : Dialogue} (h : Bounded slot extra d)
    {n : Nat} {c : Command} (hc : d.unanswered[n]? = some c) (message : String)
    (hs : d.tab.isStale c.slot c.generation = false) :
    Bounded slot (extra + (d.failsElsewhere slot (.answer n (.error message))).toNat)
      (d.step (.answer n (.error message))) := by
  have hcount := countP_eraseIdx (p := (·.slot = slot)) hc
  have hpend : (d.tab.requests.isPending slot).toNat ≤ 1 := Bool.toNat_le _
  simp only [step, hc, Tab.deliver_error (d := c.delivery (.error message)) hs rfl, List.append_nil,
    failsElsewhere, Option.any_some, hs, Bool.not_false, Bool.and_true]
  unfold Bounded underWay at h ⊢
  rw [isPending_failAll]
  by_cases hslot : c.slot = slot
  · simp only [hslot, decide_true, Bool.toNat_true] at hcount
    simp only [hslot, ne_eq, not_true_eq_false, decide_false, Bool.toNat_false]
    omega
  · simp only [hslot, decide_false, Bool.toNat_false] at hcount
    simp only [ne_eq, hslot, not_false_eq_true, decide_true, Bool.toNat_true, Bool.toNat_false]
    omega

theorem bounded_step {slot : Slot} {extra : Nat} {d : Dialogue} (hg : slot.isGated = true)
    (h : Bounded slot extra d) (e : DialogueEvent) :
    Bounded slot (extra + (d.failsElsewhere slot e).toNat) (d.step e) := by
  cases e with
  | input i =>
    exact (Tab.moves_take d.tab i).preserves (fun t cs => Bounded slot extra ⟨t, cs⟩)
      (bounded_follow_move hg) h
  | answer n outcome =>
    have le_extra {d' : Dialogue} (h' : Bounded slot extra d') (k : Nat) : Bounded slot (extra + k) d' := by
      unfold Bounded at h' ⊢
      omega
    cases hc : d.unanswered[n]? with
    | none =>
      simp only [step, hc]
      exact le_extra h _
    | some c =>
      cases hs : d.tab.isStale c.slot c.generation with
      | true =>
        -- A delivery out of date belongs to a slot without a gate.
        have hne : c.slot ≠ slot := by
          rintro rfl
          rw [Tab.isStale_of_isGated hg] at hs
          exact Bool.false_ne_true hs
        have hcount := countP_eraseIdx (p := (·.slot = slot)) hc
        simp only [hne, decide_false, Bool.toNat_false, Nat.add_zero] at hcount
        simp only [step, hc, Tab.deliver_of_isStale (d := c.delivery outcome) hs, List.append_nil]
        apply le_extra
        unfold Bounded underWay at h ⊢
        rw [hcount]
        exact h
      | false =>
        cases outcome with
        | ok a => exact le_extra (bounded_answer_ok hg h hc a hs) _
        | error message => exact bounded_answer_error h hc message hs

theorem bounded_runFrom {slot : Slot} {extra : Nat} {d : Dialogue} (hg : slot.isGated = true)
    (h : Bounded slot extra d) (es : List DialogueEvent) :
    Bounded slot (extra + d.failuresElsewhere slot es) (d.runFrom es) := by
  induction es generalizing d extra with
  | nil => exact h
  | cons e es ih =>
    have hstep := ih (bounded_step hg h e)
    rw [Nat.add_assoc] at hstep
    exact hstep

/-! ## Runs -/

theorem run_append (kind : Kind) (es fs : List DialogueEvent) :
    run kind (es ++ fs) = (run kind es).runFrom fs := List.foldl_append

/-- While a save is pending, the key that saves only says so. -/
theorem press_save_of_pending {t : Tab} (h : t.requests.isPending .save = true) :
    (t.press (.ctrl 's')).2 = [] := by
  have hform (u : Tab) (hu : u.requests = t.requests) : (u.pressForm (.ctrl 's')).2 = [] := by
    unfold Tab.pressForm
    split
    · rfl
    · show u.saveForm.2 = []
      unfold Tab.saveForm
      rw [hu, if_pos h]
  unfold Tab.press
  split
  · rfl
  · unfold Tab.pressView
    split
    · unfold Tab.pressList
      split
      · rfl
      · rfl
    · unfold Tab.pressList
      split
      · rfl
      · rfl
    · unfold Tab.pressDetail
      split
      · rfl
      · rfl
    · exact hform _ rfl
    · exact hform _ rfl
    · rfl
    · rfl
    · exact hform _ rfl
    · rfl

/-- From a moment at which no command of a gated slot is unanswered, their number stays within one more
than the number of failures in other slots. Without such a failure it stays within one, and then the
key that saves does nothing while a save is unanswered. -/
theorem underWay_le (kind : Kind) {slot : Slot} (hg : slot.isGated = true) (es fs : List DialogueEvent)
    (hfree : (run kind es).underWay slot = 0) :
    (run kind (es ++ fs)).underWay slot ≤ 1 + (run kind es).failuresElsewhere slot fs ∧
      (slot = .save → (run kind es).failuresElsewhere slot fs = 0 →
        0 < (run kind (es ++ fs)).underWay slot → ((run kind (es ++ fs)).tab.press (.ctrl 's')).2 = []) := by
  have hstart : Bounded slot 0 (run kind es) := by
    unfold Bounded
    omega
  have hend := bounded_runFrom hg hstart fs
  rw [← run_append] at hend
  unfold Bounded at hend
  have hpend := Bool.toNat_le ((run kind (es ++ fs)).tab.requests.isPending slot)
  refine ⟨by omega, ?_⟩
  rintro rfl hnone hopen
  apply press_save_of_pending
  cases hp : (run kind (es ++ fs)).tab.requests.isPending .save with
  | true => rfl
  | false =>
    rw [hp, Bool.toNat_false] at hend
    omega

/-- A job is typed in and saved while the list is loading, and saved once more when the list has come
or failed to come. -/
def savingTwice (loaded : Except String Answer) : List DialogueEvent :=
  [.input .activate, .input (.press .up), .input (.press .enter), .input (.press (.char 'a')),
    .input (.press (.ctrl 's')), .answer 0 loaded, .input (.press (.ctrl 's'))]

theorem one_create_underWay :
    let d := run .jobs ([] ++ savingTwice (.ok (.records [])))
    (run .jobs []).underWay .save = 0 ∧ d.underWay .save ≤ 1 ∧ 0 < d.underWay .save ∧
      (d.tab.press (.ctrl 's')).2 = [] := by
  have hgated : Slot.isGated .save = true := rfl
  have h := underWay_le .jobs hgated [] (savingTwice (.ok (.records []))) rfl
  have hopen : 0 < (run .jobs ([] ++ savingTwice (.ok (.records [])))).underWay .save := by decide
  exact ⟨rfl, h.1, hopen, h.2 rfl rfl hopen⟩

/-- A failure to load the list lets a second save out while the first one is under way. -/
theorem two_creates_underWay :
    (¬ ∀ (kind : Kind) (slot : Slot) (es : List DialogueEvent), slot.isGated = true →
        (run kind es).underWay slot ≤ 1) ∧
      (run .jobs (savingTwice (.error "offline"))).unanswered.map (·.request.describe) =
        ["create jobs", "create jobs"] := by
  refine ⟨fun h => ?_, rfl⟩
  have hle := h .jobs .save (savingTwice (.error "offline")) rfl
  have htwo : (run .jobs (savingTwice (.error "offline"))).underWay .save = 2 := rfl
  omega

end Dialogue

end RecordDesk
