import RecordDesk.Proofs.Tab.Permissions
import RecordDesk.Store

/-!
A tab whose commands are run one by one. The first command of a queue is put to a service, its outcome
goes back to the tab, and what the tab issues on it joins the queue at the end. Whatever the service
answers, the queue runs dry after at most twice as many calls as it held commands, and no answer meets
a slot that has no use for it (`runs_dry`).

Outcomes issue commands themselves, so the length of the queue is no measure. But only the answer to a
change issues one, and that is a query, on whose answer nothing is issued. So a change weighs two and
every other command one, and each call takes weight away (`weight_step`).
-/

namespace RecordDesk

/-- The answers that a slot has a use for. -/
def Slot.takes : Slot → Answer → Bool
  | .load, .records _ => true
  | .candidates, .records _ => true
  | .detail, .record _ => true
  | .save, .record _ => true
  | .confirm, .record _ => true
  | .confirm, .reverted => true
  | .bulk, .updated _ => true
  | .scopes, .names _ => true
  | .actors, .names _ => true
  | _, _ => false

namespace Tab

/-- An answer that a slot has no use for changes nothing in any tab, and every other one shows in some
tab. -/
theorem takes_iff {slot : Slot} {a : Answer} :
    slot.takes a = true ↔ ∃ (t : Tab) (generation : Nat), t.applyAnswer slot generation a ≠ (t, []) := by
  have shows {α : Type} {s : Slot} {b : Answer} (t : Tab) (f : Tab × List Command → α)
      (hf : f (t.applyAnswer s 0 b) ≠ f (t, [])) :
      ∃ (t : Tab) (generation : Nat), t.applyAnswer s generation b ≠ (t, []) :=
    ⟨t, 0, fun he => hf (congrArg f he)⟩
  let t := new .jobs
  let more (rs : List Record) := Record.named .jobs "" "" :: rs
  constructor
  · intro h
    unfold Slot.takes at h
    split at h
    · next rs =>
      exact shows { t with rows := more rs } (·.1.rows.length) (Nat.ne_of_lt (Nat.lt_succ_self _))
    · next rs =>
      exact shows { t with picker := { t.picker with candidates := more rs } }
        (·.1.picker.candidates.length) (Nat.ne_of_lt (Nat.lt_succ_self _))
    · next r =>
      refine shows { t with detail := some { r with fields := ("", "") :: r.fields } }
        (·.1.detail.elim 0 (·.fields.length)) ?_
      simp [applyAnswer, refreshDetail]
    · exact shows t (·.2.length) Nat.one_ne_zero
    · exact shows t (·.2.length) Nat.one_ne_zero
    · exact shows t (·.2.length) Nat.one_ne_zero
    · exact shows t (·.2.length) Nat.one_ne_zero
    · next ns =>
      exact shows { t with knownScopes := "" :: ns } (·.1.knownScopes.length)
        (Nat.ne_of_lt (Nat.lt_succ_self _))
    · next ns =>
      exact shows { t with knownActors := "" :: ns } (·.1.knownActors.length)
        (Nat.ne_of_lt (Nat.lt_succ_self _))
    · exact absurd h Bool.false_ne_true
  · rintro ⟨t, generation, h⟩
    cases slot <;> cases a <;> first | rfl | exact absurd rfl h

/-- The answer to a request that changes nothing is only taken note of. -/
theorem applyAnswer_of_not_isMutating {slot : Slot} {r : Request} {a : Answer}
    (admits : slot.admits r = true) (answers : r.answeredBy a = true) (hm : r.isMutating = false)
    (t : Tab) (generation : Nat) : (t.applyAnswer slot generation a).2 = [] := by
  cases r with
  | query | get | listScopes | listActors =>
    cases a <;> simp only [Request.answeredBy, Bool.false_eq_true] at answers
    cases slot <;> first | rfl | exact absurd admits Bool.false_ne_true
  | create | update | bulkUpdate | revert => exact absurd hm.symm Bool.false_ne_true

/-- Whatever comes of a command, it is followed by nothing, or by one query when it was a change. -/
theorem commands_deliver {c : Command} {outcome : Except String Answer}
    (admits : c.slot.admits c.request = true)
    (answers : ∀ a, outcome = .ok a → c.request.answeredBy a = true) (t : Tab) :
    (t.deliver (c.delivery outcome)).2 = [] ∨ c.request.isMutating = true ∧
      (t.deliver (c.delivery outcome)).2 = [(t.deliver (c.delivery outcome)).1.rowsQuery] := by
  rcases commands_of_heard (heard_deliver t (c.delivery outcome)) with hnone | hone
  · exact .inl hnone
  · cases hm : c.request.isMutating with
    | true => exact .inr ⟨rfl, hone⟩
    | false =>
      refine .inl ?_
      unfold deliver
      split
      · rfl
      · split
        · rfl
        · next a ha => exact applyAnswer_of_not_isMutating admits (answers a ha) hm _ _

end Tab

/-- A slot meets only with answers that it has a use for, as long as it carries requests of its own. -/
theorem Slot.takes_of_admits {slot : Slot} {r : Request} {a : Answer} (admits : slot.admits r = true)
    (answers : r.answeredBy a = true) : slot.takes a = true := by
  cases r with
  | query | get | create | bulkUpdate | revert | listScopes | listActors =>
    cases a <;> simp only [Request.answeredBy, Bool.false_eq_true] at answers
    cases slot <;> first | rfl | exact absurd admits Bool.false_ne_true
  | update kind id body =>
    cases a <;> simp only [Request.answeredBy, Bool.false_eq_true] at answers
    cases body <;> cases slot <;> first | rfl | exact absurd admits Bool.false_ne_true

/-- What a kind allows goes into the slot that it belongs to. -/
theorem Kind.Allows.admits {k : Kind} {c : Command} (h : k.Allows c) : c.slot.admits c.request = true := by
  cases h <;> rfl

/-- How many calls some commands can make at most: a change counts twice, since a query follows it. -/
def Command.weight (cs : List Command) : Nat := cs.length + cs.countP (·.request.isMutating)

theorem Command.weight_append (cs ds : List Command) : weight (cs ++ ds) = weight cs + weight ds := by
  unfold weight
  rw [List.length_append, List.countP_append]
  omega

theorem Command.weight_le (cs : List Command) : weight cs ≤ 2 * cs.length := by
  have hle := List.countP_le_length (p := (·.request.isMutating)) (l := cs)
  unfold weight
  omega

/-- A tab, the commands that are still to be run, and the state of the service that they are put to. -/
structure WorkQueue (σ : Type) where
  tab : Tab
  commands : List Command
  state : σ

namespace WorkQueue

variable {σ : Type}

/-- Runs the first command. -/
def step (g : Service σ) (q : WorkQueue σ) : WorkQueue σ :=
  match q.commands with
  | [] => q
  | c :: cs =>
    let (d, s) := c.invoke g q.state
    let (t, more) := q.tab.deliver d
    ⟨t, cs ++ more, s⟩

/-- Runs one command after the other, a number of times. -/
def run (g : Service σ) : Nat → WorkQueue σ → WorkQueue σ
  | 0, q => q
  | n + 1, q => (q.step g).run g n

/-- Every command stands in the slot that its request belongs to. -/
def Sorted (q : WorkQueue σ) : Prop := ∀ c ∈ q.commands, c.slot.admits c.request = true

def weight (q : WorkQueue σ) : Nat := Command.weight q.commands

variable {g : Service σ} {q : WorkQueue σ}

theorem step_cons {c : Command} {cs : List Command} (h : q.commands = c :: cs) :
    q.step g =
      let r := q.tab.deliver (c.delivery (g.ask c.request q.state).1)
      ⟨r.1, cs ++ r.2, (g.ask c.request q.state).2⟩ := by
  unfold step
  rw [h]
  rfl

/-! ## One call -/

/-- What joins the queue is sorted, and weighs less than the command that it follows. -/
theorem followUps_deliver {c : Command} (admits : c.slot.admits c.request = true) (t : Tab) (s : σ) :
    let more := (t.deliver (c.delivery (g.ask c.request s).1)).2
    (∀ d ∈ more, d.slot.admits d.request = true) ∧ Command.weight more < Command.weight [c] := by
  have answers : ∀ a, (g.ask c.request s).1 = .ok a → c.request.answeredBy a = true :=
    fun a ha => Request.answeredBy_of_ask g ha
  have hdeliver := Tab.commands_deliver admits answers t
  generalize t.deliver (c.delivery (g.ask c.request s).1) = r at hdeliver
  rcases hdeliver with hnone | ⟨hm, hone⟩
  · rw [hnone]
    exact ⟨List.forall_mem_nil _, Nat.lt_add_right _ Nat.one_pos⟩
  · rw [hone]
    refine ⟨List.forall_mem_singleton.2 rfl, ?_⟩
    have htwo : Command.weight [c] = 2 := by simp [Command.weight, hm]
    rw [htwo]
    exact Nat.one_lt_two

theorem Sorted.step (h : q.Sorted) : (q.step g).Sorted := by
  cases hq : q.commands with
  | nil =>
    unfold WorkQueue.step
    rw [hq]
    exact h
  | cons c cs =>
    rw [step_cons hq]
    unfold Sorted at h ⊢
    rw [hq, List.forall_mem_cons] at h
    exact List.forall_mem_append.2 ⟨h.2, (followUps_deliver h.1 q.tab q.state).1⟩

theorem weight_step (h : q.Sorted) (hne : q.commands ≠ []) : (q.step g).weight < q.weight := by
  cases hq : q.commands with
  | nil => exact absurd hq hne
  | cons c cs =>
    unfold Sorted at h
    rw [hq, List.forall_mem_cons] at h
    have hless := (followUps_deliver (g := g) h.1 q.tab q.state).2
    have hcons : Command.weight (c :: cs) = Command.weight [c] + Command.weight cs :=
      Command.weight_append [c] cs
    rw [step_cons hq]
    unfold weight
    rw [hq, Command.weight_append, hcons]
    omega

/-! ## All calls -/

theorem Sorted.run (h : q.Sorted) (n : Nat) : (q.run g n).Sorted := by
  induction n generalizing q with
  | zero => exact h
  | succ n ih => exact ih h.step

/-- The queue runs dry, after no more calls than it weighs. -/
theorem exists_run_nil (h : q.Sorted) : ∃ n ≤ q.weight, (q.run g n).commands = [] ∧
    ∀ m < n, (q.run g m).commands ≠ [] := by
  -- A call may leave the queue as long as it was, so the induction is on the weight.
  generalize hw : q.weight = w
  induction w using Nat.strongRecOn generalizing q with
  | ind w ih =>
    by_cases hne : q.commands = []
    · exact ⟨0, Nat.zero_le _, hne, fun m hm => absurd hm (Nat.not_lt_zero m)⟩
    · have hless : (q.step g).weight < w := hw ▸ weight_step h hne
      obtain ⟨n, hn, hnil, hbefore⟩ := ih _ hless h.step rfl
      refine ⟨n + 1, Nat.succ_le_of_lt (Nat.lt_of_le_of_lt hn hless), hnil, fun m hm => ?_⟩
      cases m with
      | zero => exact hne
      | succ m => exact hbefore m (Nat.lt_of_succ_lt_succ hm)

/-- Take commands that a tab has issued, in the state that it has come to since, and any service. Run one
after the other, together with what is issued on their outcomes, they come to an end: the number of calls
is at most twice the number of commands at the beginning. And no answer on the way is one that the slot of
its command passes over: there is a tab that does something on it. -/
theorem runs_dry (kind : Kind) (es : List TabEvent) (cs : List Command)
    (hcs : ∀ c ∈ cs, c ∈ (Tab.new kind).issued es) (g : Service σ) (s : σ) :
    let q : WorkQueue σ := ⟨Tab.after kind es, cs, s⟩
    (∃ n ≤ 2 * cs.length, (q.run g n).commands = [] ∧ ∀ m < n, (q.run g m).commands ≠ []) ∧
      ∀ n c rest a, (q.run g n).commands = c :: rest → (g.ask c.request (q.run g n).state).1 = .ok a →
        ∃ (t : Tab) (generation : Nat), t.applyAnswer c.slot generation a ≠ (t, []) := by
  intro q
  have hsorted : q.Sorted := fun c hc =>
    ((Tab.permitted_issued (t := Tab.new kind) trivial es).1 c (hcs c hc)).admits
  obtain ⟨n, hn, hdry⟩ := exists_run_nil (g := g) hsorted
  refine ⟨⟨n, Nat.le_trans hn (Command.weight_le cs), hdry⟩, fun n c rest a hq ha => ?_⟩
  have hadmits : c.slot.admits c.request = true := hsorted.run n c (hq ▸ List.mem_cons_self)
  exact Tab.takes_iff.1 (Slot.takes_of_admits hadmits (Request.answeredBy_of_ask g ha))

/-- A job is typed in and saved while the list is loading. -/
def savingJob : List TabEvent :=
  [.input .activate, .input (.press .up), .input (.press .enter), .input (.press (.char 'a')),
    .input (.press (.ctrl 's'))]

/-- The save has the list queried once more, so two commands take three calls. -/
theorem savingJob_runs_dry :
    let cs := (Tab.new .jobs).issued savingJob
    let q : WorkQueue Store := ⟨Tab.after .jobs savingJob, cs, .empty⟩
    cs.map (·.request.describe) = ["query jobs \"\"", "create jobs"] ∧
      (∀ c ∈ cs, c ∈ (Tab.new .jobs).issued savingJob) ∧
      (∃ n ≤ 2 * cs.length, (q.run Store.service n).commands = [] ∧
        ∀ m < n, (q.run Store.service m).commands ≠ []) ∧
      (q.run Store.service 2).commands.map (·.request.describe) = ["query jobs \"\""] ∧
      (∃ c a, (q.run Store.service 1).commands = [c] ∧ c.slot = .save ∧
        (Store.service.ask c.request (q.run Store.service 1).state).1 = .ok a ∧
        ∃ (t : Tab) (generation : Nat), t.applyAnswer c.slot generation a ≠ (t, [])) ∧
      (q.run Store.service 3).tab.rows.map Record.title = ["a"] := by
  intro cs q
  obtain ⟨hdry, hused⟩ := runs_dry .jobs savingJob cs (fun _ hc => hc) Store.service .empty
  have hsave : ∃ c a, (q.run Store.service 1).commands = [c] ∧ c.slot = .save ∧
      (Store.service.ask c.request (q.run Store.service 1).state).1 = .ok a := ⟨_, _, by rfl, by rfl, by rfl⟩
  obtain ⟨c, a, hc, hslot, ha⟩ := hsave
  exact ⟨rfl, fun _ hc => hc, hdry, rfl, ⟨c, a, hc, hslot, ha, hused 1 c [] a hc ha⟩, rfl⟩

end WorkQueue

end RecordDesk
