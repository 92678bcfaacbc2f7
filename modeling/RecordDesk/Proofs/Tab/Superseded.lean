import RecordDesk.Proofs.Tab.Bench

/-!
Answers to superseded queries are never shown (`superseded_never_shown`). A query for the rows may be
answered any number of times, late or not at all, between any inputs and any other deliveries. Only an
answer to the last query does anything, and what it shows was asked for with the search and the flag
that the tab has by then. So the catalog only ever holds what was found without a search, and the order
in which outstanding answers arrive does not matter.

A delivery carries a number and no search. What makes the number stand for the search is that nothing
changes the search or the flag without a new query (`Tab.moves_take`): the numbers ascend, and the query
with the current one is the query that the tab would make now (`Numbered`).
-/

namespace RecordDesk

/-- A tab, and all commands that it has issued so far, the oldest first. -/
structure Ledger where
  tab : Tab
  issued : List Command

/-- `answer n` answers the command at an index of those issued, if it queries the rows; `other` is
any delivery in another slot. -/
inductive LedgerEvent where
  | input (i : TabInput)
  | answer (n : Nat) (outcome : Except String Answer)
  | other (d : Delivery)

namespace Ledger

def new (kind : Kind) : Ledger := ⟨.new kind, []⟩

def follow (x : Ledger) (r : Tab × List Command) : Ledger := ⟨r.1, x.issued ++ r.2⟩

def step (x : Ledger) : LedgerEvent → Ledger
  | .input i => x.follow (x.tab.take i)
  | .answer n outcome =>
    match x.issued[n]? with
    | none => x
    | some c => if c.slot = .load then x.follow (x.tab.deliver (c.delivery outcome)) else x
  | .other d => if d.slot = .load then x else x.follow (x.tab.deliver d)

/-- A delivery in another slot than that of the queries for the rows. -/
theorem step_other (x : Ledger) {d : Delivery} (hd : d.slot ≠ .load) :
    x.step (.other d) = x.follow (x.tab.deliver d) := if_neg hd

theorem step_other_load (x : Ledger) {d : Delivery} (hd : d.slot = .load) : x.step (.other d) = x :=
  if_pos hd

def run (kind : Kind) (es : List LedgerEvent) : Ledger := es.foldl step (new kind)

/-- The command at an index is `c`, and queries the rows. -/
def QueriesAt (x : Ledger) (n : Nat) (c : Command) : Prop := x.issued[n]? = some c ∧ c.slot = .load

/-- The rows have been queried again after the command at an index. -/
def Superseded (x : Ledger) (n : Nat) : Prop := ∃ m c, n < m ∧ x.QueriesAt m c

/-- Answers the commands at some indices one after the other, each with the outcome that it has. -/
def answerAll (x : Ledger) (outcome : Nat → Except String Answer) (ns : List Nat) : Ledger :=
  ns.foldl (fun x n => x.step (.answer n (outcome n))) x

/-! ## Numbers -/

/-- The queries for the rows are numbered in ascending order, and the one with the current number asks
for what the tab would ask for now. -/
structure Numbered (x : Ledger) : Prop where
  ascending : x.issued.Pairwise fun c d => c.slot = .load → d.slot = .load → c.generation < d.generation
  reached : ∀ c ∈ x.issued, c.slot = .load → c.generation ≤ x.tab.generation
  current : ∀ c ∈ x.issued, c.slot = .load → c.generation = x.tab.generation → c = x.tab.rowsQuery

theorem numbered_new (kind : Kind) : (new kind).Numbered :=
  ⟨List.Pairwise.nil, fun _ hc => absurd hc List.not_mem_nil, fun _ hc => absurd hc List.not_mem_nil⟩

theorem Numbered.withTab {x : Ledger} (h : x.Numbered) {t : Tab} (ht : t.rowsQuery = x.tab.rowsQuery) :
    Numbered ⟨t, x.issued⟩ := by
  have hg : t.generation = x.tab.generation := congrArg Command.generation ht
  refine ⟨h.ascending, fun c hc hl => ?_, fun c hc hl hcur => ?_⟩
  · show c.generation ≤ t.generation
    rw [hg]
    exact h.reached c hc hl
  · exact (h.current c hc hl (hcur.trans hg)).trans ht.symm

/-- One more command that does not query the rows. -/
theorem Numbered.concat_other {x : Ledger} (h : x.Numbered) {t : Tab}
    (ht : t.rowsQuery = x.tab.rowsQuery) {c : Command} (hc : c.slot ≠ .load) :
    Numbered ⟨t, x.issued ++ [c]⟩ := by
  have hold := h.withTab ht
  have of_mem {d : Command} (hd : d ∈ x.issued ++ [c]) (hl : d.slot = .load) : d ∈ x.issued := by
    rcases List.mem_append.1 hd with hd | hd
    · exact hd
    · rw [List.mem_singleton.1 hd] at hl
      exact absurd hl hc
  refine ⟨?_, fun d hd hl => hold.reached d (of_mem hd hl) hl,
    fun d hd hl => hold.current d (of_mem hd hl) hl⟩
  refine List.pairwise_append.2 ⟨h.ascending, List.pairwise_singleton _ c, fun b _ d hd _ hl => ?_⟩
  rw [List.mem_singleton.1 hd] at hl
  exact absurd hl hc

theorem follow_quiet (x : Ledger) (t : Tab) : x.follow (t, []) = ⟨t, x.issued⟩ := by
  unfold follow
  rw [List.append_nil]

/-- One more query for the rows, under the next number. -/
theorem Numbered.follow_reload {x : Ledger} (h : x.Numbered) {t : Tab}
    (ht : t.generation = x.tab.generation) : (x.follow t.reload).Numbered := by
  have hbelow : ∀ c ∈ x.issued, c.slot = .load → c.generation < t.generation + 1 := by
    intro c hc hl
    have hle := h.reached c hc hl
    omega
  refine ⟨?_, fun c hc hl => ?_, fun c hc hl hcur => ?_⟩
  · refine List.pairwise_append.2 ⟨h.ascending, List.pairwise_singleton _ _, fun b hb d hd hl _ => ?_⟩
    rw [List.mem_singleton.1 hd]
    exact hbelow b hb hl
  · rcases List.mem_append.1 hc with hc | hc
    · exact Nat.le_of_lt (hbelow c hc hl)
    · rw [List.mem_singleton.1 hc]
      exact Nat.le_refl _
  · rcases List.mem_append.1 hc with hc | hc
    · exact absurd hcur (Nat.ne_of_lt (hbelow c hc hl))
    · exact List.mem_singleton.1 hc

theorem numbered_follow_move {t : Tab} {cs : List Command} {r : Tab × List Command}
    (h : Numbered ⟨t, cs⟩) (hm : t.Move r) : Numbered ⟨r.1, cs ++ r.2⟩ := by
  cases hm with
  | quiet hs =>
    rw [List.append_nil]
    exact h.withTab (Tab.rowsQuery_of_standing hs)
  | load hs => exact h.follow_reload (congrArg Traffic.generation hs)
  | @candidates u hs =>
    have hq : u.rowsQuery = t.rowsQuery := Tab.rowsQuery_of_standing hs
    exact h.concat_other (t := u.queryCandidates.1) (c := ⟨u.kind, .candidates, _, _⟩) hq
      Slot.noConfusion
  | @request u slot generation r hs gated _ _ =>
    have hq : u.rowsQuery = t.rowsQuery := Tab.rowsQuery_of_standing hs
    exact h.concat_other (t := (u.start slot generation r).1) (c := ⟨u.kind, slot, generation, r⟩) hq
      (Slot.ne_load_of_isGated gated)

/-- An answer to a query for the rows issues nothing, and leaves the query as it is. -/
theorem deliver_load (t : Tab) {d : Delivery} (hd : d.slot = .load) :
    (t.deliver d).2 = [] ∧ (t.deliver d).1.rowsQuery = t.rowsQuery := by
  cases hs : t.isStale d.slot d.generation with
  | true =>
    rw [Tab.deliver_of_isStale hs]
    exact ⟨rfl, rfl⟩
  | false =>
    cases ho : d.outcome with
    | error message =>
      rw [Tab.deliver_error hs ho]
      exact ⟨rfl, rfl⟩
    | ok a =>
      obtain ⟨u, happly, -, hq⟩ :=
        Tab.applyAnswer_load { t with requests := t.requests.set .load .idle } d.generation a
      rw [Tab.deliver_ok hs ho, hd, happly]
      exact ⟨rfl, hq⟩

theorem Numbered.follow_deliver {x : Ledger} (h : x.Numbered) {d : Delivery} (hl : d.slot ≠ .load) :
    (x.follow (x.tab.deliver d)).Numbered := by
  cases hs : x.tab.isStale d.slot d.generation with
  | true =>
    rw [Tab.deliver_of_isStale hs, follow_quiet]
    exact h
  | false =>
    cases ho : d.outcome with
    | error message =>
      rw [Tab.deliver_error hs ho, follow_quiet]
      exact h.withTab rfl
    | ok a =>
      rw [Tab.deliver_ok hs ho]
      have hfreed : Numbered ⟨{ x.tab with requests := x.tab.requests.set d.slot .idle }, x.issued⟩ :=
        h.withTab rfl
      exact numbered_follow_move hfreed (Tab.move_applyAnswer hl _ _ a)

theorem step_answer {x : Ledger} {n : Nat} {c : Command} (hc : x.QueriesAt n c)
    (outcome : Except String Answer) :
    x.step (.answer n outcome) = ⟨(x.tab.deliver (c.delivery outcome)).1, x.issued⟩ := by
  simp only [step, hc.1]
  rw [if_pos hc.2, follow, (deliver_load x.tab hc.2).1, List.append_nil]

theorem step_answer_of_not_queriesAt {x : Ledger} {n : Nat} (h : ∀ c, ¬ x.QueriesAt n c)
    (outcome : Except String Answer) : x.step (.answer n outcome) = x := by
  cases hc : x.issued[n]? with
  | none => simp only [step, hc]
  | some c =>
    simp only [step, hc]
    exact if_neg fun hl => h c ⟨hc, hl⟩

theorem Numbered.step {x : Ledger} (h : x.Numbered) (e : LedgerEvent) : (x.step e).Numbered := by
  cases e with
  | input i =>
    exact (Tab.moves_take x.tab i).preserves (fun t cs => Numbered ⟨t, cs⟩) numbered_follow_move h
  | answer n outcome =>
    by_cases hq : ∃ c, x.QueriesAt n c
    · obtain ⟨c, hc⟩ := hq
      rw [step_answer hc]
      exact h.withTab (deliver_load x.tab hc.2).2
    · rw [step_answer_of_not_queriesAt (not_exists.1 hq)]
      exact h
  | other d =>
    by_cases hl : d.slot = .load
    · rw [step_other_load x hl]
      exact h
    · rw [step_other x hl]
      exact h.follow_deliver hl

theorem numbered_run (kind : Kind) (es : List LedgerEvent) : (run kind es).Numbered := by
  exact List.foldlRecOn es step (numbered_new kind) fun _ h e _ => h.step e

theorem coherent_step {x : Ledger} (h : x.tab.Coherent) (e : LedgerEvent) : (x.step e).tab.Coherent := by
  cases e with
  | input i => exact h.handle (.input i)
  | answer n outcome =>
    by_cases hq : ∃ c, x.QueriesAt n c
    · obtain ⟨c, hc⟩ := hq
      rw [step_answer hc]
      exact h.handle (.deliver (c.delivery outcome))
    · rw [step_answer_of_not_queriesAt (not_exists.1 hq)]
      exact h
  | other d =>
    by_cases hl : d.slot = .load
    · rw [step_other_load x hl]
      exact h
    · rw [step_other x hl]
      exact h.handle (.deliver d)

theorem coherent_run (kind : Kind) (es : List LedgerEvent) : (run kind es).tab.Coherent :=
  List.foldlRecOn (motive := fun x => x.tab.Coherent) es step (Tab.coherent_new kind)
    fun _ h e _ => coherent_step h e

/-! ## Superseded queries -/

theorem Numbered.isStale_of_superseded {x : Ledger} (h : x.Numbered) {n : Nat} {c : Command}
    (hc : x.QueriesAt n c) (hs : x.Superseded n) : x.tab.isStale c.slot c.generation = true := by
  obtain ⟨m, d, hnm, hd⟩ := hs
  obtain ⟨hn, hcn⟩ := List.getElem?_eq_some_iff.1 hc.1
  obtain ⟨hm, hdm⟩ := List.getElem?_eq_some_iff.1 hd.1
  have hlt := List.pairwise_iff_getElem.1 h.ascending n m hn hm hnm
  rw [hcn, hdm] at hlt
  have hlt := hlt hc.2 hd.2
  have hle := h.reached d (List.mem_of_getElem? hd.1) hd.2
  rw [hc.2, Tab.isStale_load, bne_iff_ne]
  omega

theorem Numbered.deliver_of_superseded {x : Ledger} (h : x.Numbered) {n : Nat} {c : Command}
    (hc : x.QueriesAt n c) (hs : x.Superseded n) (outcome : Except String Answer) :
    x.tab.deliver (c.delivery outcome) = (x.tab, []) :=
  Tab.deliver_of_isStale (d := c.delivery outcome) (h.isStale_of_superseded hc hs)

/-- An answer that is not dropped answers the query that the tab would make now. -/
theorem Numbered.eq_rowsQuery {x : Ledger} (h : x.Numbered) {n : Nat} {c : Command}
    (hc : x.QueriesAt n c) (hs : x.tab.isStale c.slot c.generation = false) : c = x.tab.rowsQuery := by
  rw [hc.2, Tab.isStale_load, bne_eq_false_iff_eq] at hs
  exact h.current c (List.mem_of_getElem? hc.1) hc.2 hs.symm

theorem issued_step_answer (x : Ledger) (n : Nat) (outcome : Except String Answer) :
    (x.step (.answer n outcome)).issued = x.issued := by
  by_cases h : ∃ c, x.QueriesAt n c
  · obtain ⟨c, hc⟩ := h
    rw [step_answer hc]
  · rw [step_answer_of_not_queriesAt (not_exists.1 h)]

/-- A command that does not query the rows, or no longer counts, is answered in vain. -/
theorem Numbered.step_answer_eq_self {x : Ledger} (h : x.Numbered) {n : Nat}
    (hn : ∀ c, x.QueriesAt n c → x.Superseded n) (outcome : Except String Answer) :
    x.step (.answer n outcome) = x := by
  by_cases hq : ∃ c, x.QueriesAt n c
  · obtain ⟨c, hc⟩ := hq
    rw [step_answer hc, h.deliver_of_superseded hc (hn c hc)]
  · exact step_answer_of_not_queriesAt (not_exists.1 hq) outcome

/-- Of two commands one is answered in vain, before and after the other one is answered. -/
theorem Numbered.answer_comm {x : Ledger} (h : x.Numbered) (outcome : Nat → Except String Answer)
    (m n : Nat) :
    (x.step (.answer m (outcome m))).step (.answer n (outcome n)) =
      (x.step (.answer n (outcome n))).step (.answer m (outcome m)) := by
  have first {m n : Nat} (hvain : ∀ c, x.QueriesAt m c → x.Superseded m) :
      (x.step (.answer m (outcome m))).step (.answer n (outcome n)) =
        (x.step (.answer n (outcome n))).step (.answer m (outcome m)) := by
    rw [h.step_answer_eq_self hvain, (h.step _).step_answer_eq_self]
    unfold Superseded QueriesAt at hvain ⊢
    rw [issued_step_answer]
    exact hvain
  rcases Nat.lt_trichotomy m n with hmn | rfl | hnm
  · by_cases hq : ∃ c, x.QueriesAt n c
    · obtain ⟨c, hc⟩ := hq
      exact first fun _ _ => ⟨n, c, hmn, hc⟩
    · exact (first fun c hc => absurd ⟨c, hc⟩ hq).symm
  · rfl
  · by_cases hq : ∃ c, x.QueriesAt m c
    · obtain ⟨c, hc⟩ := hq
      exact (first fun _ _ => ⟨m, c, hnm, hc⟩).symm
    · exact first fun c hc => absurd ⟨c, hc⟩ hq

theorem Numbered.answerAll_perm {x : Ledger} (h : x.Numbered) (outcome : Nat → Except String Answer)
    {ns ms : List Nat} (hp : ns.Perm ms) : x.answerAll outcome ns = x.answerAll outcome ms := by
  induction hp generalizing x with
  | nil => rfl
  | cons n _ ih => exact ih (h.step (.answer n (outcome n)))
  | swap m n ns => exact congrArg (answerAll · outcome ns) (h.answer_comm outcome n m)
  | trans _ _ ih ih' => exact (ih h).trans (ih' h)

/-! ## The catalog -/

/-- The catalog is only ever replaced by what was found without a search. -/
theorem Numbered.catalog_step {x : Ledger} (h : x.Numbered) (hx : x.tab.Coherent) (e : LedgerEvent)
    (hne : (x.step e).tab.catalog ≠ x.tab.catalog) :
    ∃ n c rs archived, e = .answer n (.ok (.records rs)) ∧ x.QueriesAt n c ∧
      c.request = .query x.tab.kind ⟨"", archived⟩ ∧ (x.step e).tab.catalog = rs := by
  cases e with
  | input i => exact absurd (hx.catalogs_take i).1 hne
  | other d =>
    by_cases hl : d.slot = .load
    · rw [step_other_load x hl] at hne
      exact absurd rfl hne
    · rw [step_other x hl] at hne
      rcases (Tab.told_deliver x.tab d).catalog_rows with hsame | ⟨_, hd, _⟩
      · exact absurd hsame hne
      · exact absurd hd hl
  | answer n outcome =>
    by_cases hq : ∃ c, x.QueriesAt n c
    · obtain ⟨c, hc⟩ := hq
      rw [step_answer hc] at hne ⊢
      rcases (Tab.told_deliver x.tab (c.delivery outcome)).catalog_rows with
        hsame | ⟨rs, _, ho, hsearch, hcat⟩
      · exact absurd hsame hne
      · have hs : x.tab.isStale c.slot c.generation = false := by
          refine Bool.eq_false_iff.2 fun hstale => hne ?_
          rw [Tab.deliver_of_isStale (d := c.delivery outcome) hstale]
        have hrequest : c.request = x.tab.rowsQuery.request :=
          congrArg Command.request (h.eq_rowsQuery hc hs)
        refine ⟨n, c, rs, x.tab.includeArchived, ?_, hc, ?_, hcat⟩
        · exact congrArg (LedgerEvent.answer n) ho
        · have hsearch : x.tab.search = "" := hsearch
          rw [hrequest]
          unfold Tab.rowsQuery
          rw [hsearch]
    · rw [step_answer_of_not_queriesAt (not_exists.1 hq)] at hne
      exact absurd rfl hne

/-! ## Runs -/

/-- After any run: an answer to a query for the rows after which the rows have been queried again
changes nothing and issues nothing; one that changes the tab answers a query with the search and the
flag that the tab has now; the catalog is only replaced by the records of a query without a search; and
outstanding answers, one for each query, lead to the same tab in whatever order they come. -/
theorem superseded_never_shown (kind : Kind) (es : List LedgerEvent) :
    let x := run kind es
    (∀ n c outcome, x.QueriesAt n c → x.Superseded n →
        x.tab.deliver (c.delivery outcome) = (x.tab, [])) ∧
      (∀ n c outcome, x.QueriesAt n c → (x.tab.deliver (c.delivery outcome)).1 ≠ x.tab →
        c.request = .query x.tab.kind ⟨x.tab.search, x.tab.includeArchived⟩) ∧
      (∀ e, (x.step e).tab.catalog ≠ x.tab.catalog →
        ∃ n c rs archived, e = .answer n (.ok (.records rs)) ∧ x.QueriesAt n c ∧
          c.request = .query x.tab.kind ⟨"", archived⟩ ∧ (x.step e).tab.catalog = rs) ∧
      (∀ outcome (ns ms : List Nat), ns.Perm ms → x.answerAll outcome ns = x.answerAll outcome ms) := by
  intro x
  have h : x.Numbered := numbered_run kind es
  refine ⟨fun n c outcome hc hs => h.deliver_of_superseded hc hs outcome, fun n c outcome hc hne => ?_,
    h.catalog_step (coherent_run kind es), fun outcome ns ms hp => h.answerAll_perm outcome hp⟩
  cases hs : x.tab.isStale c.slot c.generation with
  | true =>
    rw [Tab.deliver_of_isStale (d := c.delivery outcome) hs] at hne
    exact absurd rfl hne
  | false => exact congrArg Command.request (h.eq_rowsQuery hc hs)

/-- Two letters are typed while the list is loading, and the queries are answered in reverse. -/
def typedAhead : List LedgerEvent :=
  [.input .activate, .input (.press (.char 'a')), .input (.press (.char 'l'))]

theorem stale_answer_typedAhead :
    let x := run .jobs typedAhead
    let old : Command := ⟨.jobs, .load, 2, .query .jobs ⟨"a", false⟩⟩
    let found : Except String Answer := .ok (.records [Record.named .jobs "job-1" "alarm"])
    x.QueriesAt 1 old ∧ x.Superseded 1 ∧ x.tab.deliver (old.delivery found) = (x.tab, []) ∧
      x.answerAll (fun _ => found) [2, 1, 0] = x.answerAll (fun _ => found) [0, 1, 2] ∧
      (x.answerAll (fun _ => found) [2, 1, 0]).tab.rows.length = 1 := by
  intro x old found
  have hquery : x.QueriesAt 1 old := ⟨rfl, rfl⟩
  have hlater : x.Superseded 1 := ⟨2, ⟨.jobs, .load, 3, .query .jobs ⟨"al", false⟩⟩, by decide, rfl, rfl⟩
  obtain ⟨hdrop, -, -, horder⟩ := superseded_never_shown .jobs typedAhead
  exact ⟨hquery, hlater, hdrop 1 old _ hquery hlater, horder _ [2, 1, 0] [0, 1, 2] (by decide), rfl⟩

end Ledger

end RecordDesk
