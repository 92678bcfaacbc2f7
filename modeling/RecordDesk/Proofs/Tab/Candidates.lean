import Mathlib.Data.List.Induction
import RecordDesk.Proofs.Tab.Bench
import RecordDesk.Proofs.Tab.Convergence
import RecordDesk.Proofs.Tab.InFlight

/-!
Which answers the picker takes. It asks for the candidates anew whenever its query changes, under a new
number, and drops the answers that carry an older one. So as long as the picker is open, the answer that
is not dropped answers the query that stands in it, and the catalog, from which the picker filters, only
takes in what was found without a query (`candidates_answer_picker`).

Leaving the picker clears the query under the old number. An answer that comes then is taken for one
without a query, and the catalog lacks what its query did not hit (`catalog_of_left_picker`).
-/

namespace RecordDesk

/-- Between two benches neither the query of the picker has changed nor its number; or the picker is
closed, and its query cleared. -/
structure Bench.Steady (x y : Bench) : Prop where
  generation : y.picker.generation = x.picker.generation
  picking : y.view.isPicking = true → x.view.isPicking = true ∧ y.picker.query = x.picker.query
  closed : y.view.isPicking = false → y.picker.query = "" ∨
    x.view.isPicking = false ∧ y.picker.query = x.picker.query

namespace Bench

variable {x y : Bench}

/-- With the view and the query of the picker in place. -/
theorem steady_of_eq (view : y.view.isPicking = x.view.isPicking) (query : y.picker.query = x.picker.query)
    (generation : y.picker.generation = x.picker.generation) : x.Steady y where
  generation := generation
  picking h := ⟨view.symm.trans h, query⟩
  closed h := .inr ⟨view.symm.trans h, query⟩

theorem steady_of_cleared (view : y.view.isPicking = false) (query : y.picker.query = "")
    (generation : y.picker.generation = x.picker.generation) : x.Steady y where
  generation := generation
  picking h := absurd (view.symm.trans h) Bool.false_ne_true
  closed _ := .inl query

theorem Use.steady_or_asked (use : x.Use y) :
    x.Steady y ∨ y.view.isPicking = true ∧ y.picker.generation = x.picker.generation + 1 := by
  cases use with
  | stay | mark | scroll | scrollPicker => exact .inl (steady_of_eq rfl rfl rfl)
  | turn free plain => exact .inl (steady_of_eq ((View.isPicking_of_isPlain plain).trans free.symm) rfl rfl)
  | refill view plain =>
    have free := View.isPicking_of_isList view
    exact .inl (steady_of_eq ((View.isPicking_of_isPlain plain).trans free.symm) rfl rfl)
  | prompt view marked => exact .inl (steady_of_eq (View.isPicking_of_isList view).symm rfl rfl)
  | aim picking => exact .inl (steady_of_eq picking.symm rfl rfl)
  | leave picking plain => exact .inl (steady_of_cleared (View.isPicking_of_isPlain plain) rfl rfl)
  | relate => exact .inr ⟨rfl, rfl⟩
  | ask => exact .inr ⟨rfl, rfl⟩

theorem query_answered (p : Picker) (rs : List Record) :
    (p.answered rs).query = p.query ∧ (p.answered rs).generation = p.generation := by
  unfold Picker.answered
  split
  · exact ⟨rfl, rfl⟩
  · exact ⟨rfl, rfl⟩

theorem Told.steady {d : Delivery} (told : x.Told d y) : x.Steady y := by
  cases told with
  | stay | rows | bulk => exact steady_of_eq rfl rfl rfl
  | @candidates rs =>
    obtain ⟨hquery, hgeneration⟩ := query_answered x.picker rs
    exact steady_of_eq rfl hquery hgeneration
  | saved => exact steady_of_cleared rfl rfl rfl

/-- A delivery keeps the catalog of the picker, unless it is an answer that is taken without a query. -/
theorem Told.catalog {d : Delivery} (told : x.Told d y) :
    y.picker.catalog = x.picker.catalog ∨
      ∃ rs, d.slot = .candidates ∧ d.outcome = .ok (.records rs) ∧ x.picker.query = "" ∧
        y.picker.catalog = rs := by
  cases told with
  | stay | rows | bulk | saved => exact .inl rfl
  | candidates slot fresh outcome =>
    unfold Picker.answered
    split
    · next hquery => exact .inr ⟨_, slot, outcome, String.isEmpty_iff.1 hquery, rfl⟩
    · exact .inl rfl

end Bench

namespace Tab

/-- The query for the candidates that stands in the picker. -/
def candidatesQuery (t : Tab) : Command :=
  ⟨t.kind, .candidates, t.picker.generation, .query .entities ⟨t.picker.query, false⟩⟩

/-- A move either asks for the candidates that the picker stands for then, or keeps the number. -/
theorem Move.candidates_or {t : Tab} {r : Tab × List Command} (h : t.Move r) :
    r.1.picker.generation = t.picker.generation ∧ (∀ c ∈ r.2, c.slot ≠ .candidates) ∨
      r.1.picker.generation = t.picker.generation + 1 ∧ r.2 = [r.1.candidatesQuery] := by
  cases h with
  | quiet h => exact .inl ⟨congrArg (·.traffic.candidatesGeneration) h, List.forall_mem_nil _⟩
  | load h =>
    exact .inl ⟨congrArg Traffic.candidatesGeneration h, List.forall_mem_singleton.2 Slot.noConfusion⟩
  | @candidates u h =>
    have hsame : u.picker.generation = t.picker.generation := congrArg (·.traffic.candidatesGeneration) h
    exact .inr ⟨congrArg (· + 1) hsame, rfl⟩
  | @request u slot generation req h gated =>
    refine .inl ⟨congrArg (·.traffic.candidatesGeneration) h, List.forall_mem_singleton.2 ?_⟩
    rintro rfl
    exact Bool.false_ne_true gated

/-- What an event does to the query of the picker: it asks, or leaves it alone, or closes the picker. -/
theorem Coherent.steady_or_asks {t : Tab} (h : t.Coherent) (e : TabEvent) :
    t.bench.Steady (t.handle e).1.bench ∧ (∀ c ∈ (t.handle e).2, c.slot ≠ .candidates) ∨
      (t.handle e).1.view.isPicking = true ∧
        (t.handle e).1.picker.generation = t.picker.generation + 1 ∧
        (t.handle e).2 = [(t.handle e).1.candidatesQuery] := by
  have unasked (hkey : ∀ k, e ≠ .input (.press k)) : ∀ c ∈ (t.handle e).2, c.slot ≠ .candidates := by
    intro c hc hslot
    rcases command_cases hc with rfl | rfl | ⟨k, rfl⟩
    · cases hslot
    · cases hslot
    · exact hkey k rfl
  cases e with
  | deliver d => exact .inl ⟨(told_deliver t d).steady, unasked fun _ => TabEvent.noConfusion⟩
  | input i =>
    cases i with
    | activate =>
      refine .inl ⟨?_, unasked fun _ h => by cases h⟩
      rw [show (t.handle (.input .activate)).1.bench = t.bench from bench_activate t]
      exact Bench.steady_of_eq rfl rfl rfl
    | reload => exact .inl ⟨Bench.steady_of_eq rfl rfl rfl, unasked fun _ h => by cases h⟩
    | viewport height => exact .inl ⟨Bench.steady_of_eq rfl rfl rfl, unasked fun _ h => by cases h⟩
    | press k =>
      rcases (h.use_press k).steady_or_asked with hsteady | ⟨hpicking, hnext⟩ <;>
        rcases (move_press t k).candidates_or with ⟨hsame, hnone⟩ | ⟨hmore, hsent⟩
      · exact .inl ⟨hsteady, hnone⟩
      · have hgeneration := hsteady.generation
        simp only [bench] at hgeneration
        omega
      · simp only [bench] at hnext
        omega
      · exact .inr ⟨hpicking, hmore, hsent⟩

end Tab

namespace Dialogue

/-- The queries for candidates that are unanswered carry numbers up to the one that stands in the picker.
That number stands for the query of the picker while it is open; closed, the picker has no query. -/
structure Tallied (d : Dialogue) : Prop where
  coherent : d.tab.Coherent
  reached : ∀ c ∈ d.unanswered, c.slot = .candidates → c.generation ≤ d.tab.picker.generation
  queries : ∀ c ∈ d.unanswered, c.slot = .candidates → ∃ q, c.request = .query .entities ⟨q, false⟩
  current : ∀ c ∈ d.unanswered, c.slot = .candidates → c.generation = d.tab.picker.generation →
    d.tab.view.isPicking = true → c.request = d.tab.candidatesQuery.request
  closed : d.tab.view.isPicking = false → d.tab.picker.query = ""

theorem tallied_new (kind : Kind) : (new kind).Tallied where
  coherent := Tab.coherent_new kind
  reached _ hc := absurd hc List.not_mem_nil
  queries _ hc := absurd hc List.not_mem_nil
  current _ hc := absurd hc List.not_mem_nil
  closed _ := rfl

/-- While the query stands or is cleared, answers come and other things are asked for. -/
theorem Tallied.steady {t u : Tab} {cs cs' : List Command} (h : Tallied ⟨t, cs⟩) (hu : u.Coherent)
    (hsteady : t.bench.Steady u.bench) (old : ∀ c ∈ cs', c.slot = .candidates → c ∈ cs) :
    Tallied ⟨u, cs'⟩ := by
  have hgeneration : u.picker.generation = t.picker.generation := hsteady.generation
  refine ⟨hu, fun c hc hs => ?_, fun c hc hs => h.queries c (old c hc hs) hs,
    fun c hc hs hcur hv => ?_, fun hv => ?_⟩
  · exact hgeneration.symm ▸ h.reached c (old c hc hs) hs
  · obtain ⟨hwas, hquery⟩ := hsteady.picking hv
    have hrequest := h.current c (old c hc hs) hs (hcur.trans hgeneration) hwas
    have hquery : u.picker.query = t.picker.query := hquery
    rw [hrequest, Tab.candidatesQuery, Tab.candidatesQuery, hquery]
  · rcases hsteady.closed hv with hquery | ⟨hwas, hquery⟩
    · exact hquery
    · exact hquery.trans (h.closed hwas)

/-- A query that is sent anew has a higher number than all before. -/
theorem Tallied.asked {t u : Tab} {cs kept : List Command} (h : Tallied ⟨t, cs⟩) (hu : u.Coherent)
    (hpicking : u.view.isPicking = true) (hnext : u.picker.generation = t.picker.generation + 1)
    (hkept : ∀ c ∈ kept, c ∈ cs) : Tallied ⟨u, kept ++ [u.candidatesQuery]⟩ := by
  have split {c : Command} (hc : c ∈ kept ++ [u.candidatesQuery]) : c ∈ cs ∨ c = u.candidatesQuery :=
    (List.mem_append.1 hc).imp (hkept c) List.mem_singleton.1
  have below {c : Command} (hc : c ∈ cs) (hs : c.slot = .candidates) :
      c.generation < u.picker.generation := by
    have hle : c.generation ≤ t.picker.generation := h.reached c hc hs
    omega
  refine ⟨hu, fun c hc hs => ?_, fun c hc hs => ?_, fun c hc hs hcur _ => ?_, fun hv => ?_⟩
  · rcases split hc with hc | rfl
    · exact Nat.le_of_lt (below hc hs)
    · exact Nat.le_refl _
  · rcases split hc with hc | rfl
    · exact h.queries c hc hs
    · exact ⟨_, rfl⟩
  · rcases split hc with hc | rfl
    · exact absurd hcur (Nat.ne_of_lt (below hc hs))
    · rfl
  · exact absurd (hv.symm.trans hpicking) Bool.false_ne_true

/-- An event of the tab, and some commands taken out before. -/
theorem Tallied.handle {t : Tab} {cs kept : List Command} (h : Tallied ⟨t, cs⟩) (hkept : ∀ c ∈ kept, c ∈ cs)
    (e : TabEvent) : Tallied ⟨(t.handle e).1, kept ++ (t.handle e).2⟩ := by
  have hc : t.Coherent := h.coherent
  rcases hc.steady_or_asks e with ⟨hsteady, hnone⟩ | ⟨hpicking, hnext, hsent⟩
  · refine h.steady (hc.handle e) hsteady fun c hc hslot => ?_
    rcases List.mem_append.1 hc with hc | hc
    · exact hkept c hc
    · exact absurd hslot (hnone c hc)
  · rw [hsent]
    exact h.asked (hc.handle e) hpicking hnext hkept

theorem Tallied.step {d : Dialogue} (h : d.Tallied) (e : DialogueEvent) : (d.step e).Tallied := by
  cases e with
  | input i => exact h.handle (fun _ hc => hc) (.input i)
  | answer n outcome =>
    cases hc : d.unanswered[n]? with
    | none =>
      simp only [Dialogue.step, hc]
      exact h
    | some c =>
      simp only [Dialogue.step, hc]
      exact h.handle (fun _ hm => List.mem_of_mem_eraseIdx hm) (.deliver (c.delivery outcome))

theorem tallied_run (kind : Kind) (es : List DialogueEvent) : (run kind es).Tallied :=
  List.foldlRecOn es Dialogue.step (tallied_new kind) fun _ h e _ => h.step e

/-! ## Answers that are taken -/

/-- The command at an index of those unanswered asks for candidates, and its answer will not be dropped. -/
structure Awaits (d : Dialogue) (n : Nat) (c : Command) : Prop where
  unanswered : d.unanswered[n]? = some c
  slot : c.slot = .candidates
  fresh : d.tab.isStale c.slot c.generation = false

/-- It asks for what stands in the picker, if that is open. -/
theorem Tallied.query_of_awaits {d : Dialogue} (h : d.Tallied) {n : Nat} {c : Command} (hc : d.Awaits n c) :
    ∃ q, c.request = .query .entities ⟨q, false⟩ ∧
      (d.tab.view.isPicking = true → q = d.tab.picker.query) := by
  have hmem := List.mem_of_getElem? hc.unanswered
  have hcurrent : c.generation = d.tab.picker.generation := by
    have hfresh := hc.fresh
    rw [hc.slot] at hfresh
    exact (bne_eq_false_iff_eq.1 hfresh).symm
  obtain ⟨q, hq⟩ := h.queries c hmem hc.slot
  refine ⟨q, hq, fun hv => ?_⟩
  have hrequest := h.current c hmem hc.slot hcurrent hv
  rw [hq] at hrequest
  cases hrequest
  rfl

/-- An event keeps the catalog of the picker, or is an answer that is taken without a query. -/
theorem Tallied.catalog_step {d : Dialogue} (h : d.Tallied) (e : DialogueEvent) :
    (d.step e).tab.picker.catalog = d.tab.picker.catalog ∨
      ∃ n c rs, e = .answer n (.ok (.records rs)) ∧ d.Awaits n c ∧ d.tab.picker.query = "" ∧
        (d.step e).tab.picker.catalog = rs := by
  cases e with
  | input i => exact .inl (h.coherent.catalogs_take i).2
  | answer n outcome =>
    cases hc : d.unanswered[n]? with
    | none =>
      simp only [Dialogue.step, hc]
      exact .inl trivial
    | some c =>
      simp only [Dialogue.step, hc]
      cases hs : d.tab.isStale c.slot c.generation with
      | true =>
        rw [Tab.deliver_of_isStale (d := c.delivery outcome) hs]
        exact .inl rfl
      | false =>
        rcases (Tab.told_deliver d.tab (c.delivery outcome)).catalog with
          hsame | ⟨rs, slot, houtcome, hquery, hcatalog⟩
        · exact .inl hsame
        · have houtcome : outcome = .ok (.records rs) := houtcome
          exact .inr ⟨n, c, rs, congrArg _ houtcome, ⟨hc, slot, hs⟩, hquery, hcatalog⟩

theorem exists_answer_of_catalog (kind : Kind) (es : List DialogueEvent) :
    (run kind es).tab.picker.catalog = [] ∨
      ∃ es₀ n c rs es₁, es = es₀ ++ .answer n (.ok (.records rs)) :: es₁ ∧ (run kind es₀).Awaits n c ∧
        (run kind es₀).tab.picker.query = "" ∧ (run kind es).tab.picker.catalog = rs := by
  induction es using List.reverseRecOn with
  | nil => exact .inl rfl
  | append_singleton es e ih =>
    have hstep : run kind (es ++ [e]) = (run kind es).step e := run_append kind es [e]
    rw [hstep]
    rcases (tallied_run kind es).catalog_step e with hsame | ⟨n, c, rs, rfl, hawaits, hquery, hcatalog⟩
    · rw [hsame]
      refine ih.imp id ?_
      rintro ⟨es₀, n, c, rs, es₁, rfl, hanswer⟩
      exact ⟨es₀, n, c, rs, es₁ ++ [e], by rw [List.append_assoc, List.cons_append], hanswer⟩
    · exact .inr ⟨es, n, c, rs, [], rfl, hawaits, hquery, hcatalog⟩

/-- In any run: an answer to a query for the candidates that comes while the picker is open, and is not
dropped, answers the query that stands in the picker then. And the catalog of the picker is empty, or
consists of the records of such an answer, which came while there was no query in the picker; if the picker
was open then, the query that was answered had an empty search. -/
theorem candidates_answer_picker (kind : Kind) (es : List DialogueEvent) :
    (∀ n c, (run kind es).Awaits n c → ∃ q, c.request = .query .entities ⟨q, false⟩ ∧
      ((run kind es).tab.view.isPicking = true → q = (run kind es).tab.picker.query)) ∧
    ((run kind es).tab.picker.catalog = [] ∨
      ∃ es₀ n c rs es₁, es = es₀ ++ .answer n (.ok (.records rs)) :: es₁ ∧ (run kind es₀).Awaits n c ∧
        (run kind es).tab.picker.catalog = rs ∧ (run kind es₀).tab.picker.query = "" ∧
        ((run kind es₀).tab.view.isPicking = true → c.request = .query .entities ⟨"", false⟩)) := by
  refine ⟨fun n c hc => (tallied_run kind es).query_of_awaits hc, ?_⟩
  rcases exists_answer_of_catalog kind es with hempty | ⟨es₀, n, c, rs, es₁, hsplit, hc, hquery, hcatalog⟩
  · exact .inl hempty
  · refine .inr ⟨es₀, n, c, rs, es₁, hsplit, hc, hcatalog, hquery, fun hv => ?_⟩
    obtain ⟨q, hq, hpicker⟩ := (tallied_run kind es₀).query_of_awaits hc
    rw [hq, hpicker hv, hquery]

/-- The picker is opened, which asks for all entities. -/
def openingPicker : List DialogueEvent := [.input .activate, .input (.press .up), .input (.press .enter)]

/-- The answer to that query becomes the catalog. -/
theorem candidates_answer_opened :
    let command : Command := ⟨.relationships, .candidates, 1, .query .entities ⟨"", false⟩⟩
    let alpha := Record.named .entities "ent-1" "Alpha"
    let es := openingPicker ++ [.answer 1 (.ok (.records [alpha]))]
    (run .relationships openingPicker).Awaits 1 command ∧
      (run .relationships openingPicker).tab.picker.query = "" ∧
      ∃ es₀ n c rs es₁, es = es₀ ++ .answer n (.ok (.records rs)) :: es₁ ∧ (run .relationships es₀).Awaits n c ∧
        (run .relationships es).tab.picker.catalog = rs ∧ rs = [alpha] ∧
        (run .relationships es₀).tab.picker.query = "" := by
  intro command alpha es
  have hawaits : (run .relationships openingPicker).Awaits 1 command := ⟨rfl, rfl, rfl⟩
  have hcatalog : (run .relationships es).tab.picker.catalog = [alpha] := rfl
  obtain ⟨q, hq, hpicker⟩ := (candidates_answer_picker .relationships openingPicker).1 1 command hawaits
  have hquery : q = "" := by
    cases hq
    rfl
  refine ⟨hawaits, hquery ▸ (hpicker rfl).symm, ?_⟩
  rcases (candidates_answer_picker .relationships es).2 with hempty | ⟨es₀, n, c, rs, es₁, hsplit, hc, hrs, hclear, -⟩
  · rw [hcatalog] at hempty
    cases hempty
  · exact ⟨es₀, n, c, rs, es₁, hsplit, hc, hrs, hrs.symm.trans hcatalog, hclear⟩

/-- A store with two entities. -/
def twoEntities : Store :=
  Store.empty.setRecords .entities [.named .entities "ent-1" "Alpha", .named .entities "ent-2" "Beta"]

/-- The first one is looked for in the picker, which is left before the answer is there. -/
def leavingPicker : List ExchangeEvent :=
  [.input .activate, .input (.press .up), .input (.press .enter), .input (.press (.char 'l')),
    .input (.press .esc), .call 2, .deliver 2]

/-- It is taken for an answer without a query. So it becomes the catalog, and hides the other entity when
that is looked for next. -/
theorem catalog_of_left_picker :
    (¬ ∀ es n c, (run .relationships es).Awaits n c →
        c.request = .query .entities ⟨(run .relationships es).tab.picker.query, false⟩) ∧
      let x := Exchange.run .relationships twoEntities leavingPicker
      let again := Exchange.run .relationships twoEntities
        (leavingPicker ++ [.input (.press .up), .input (.press .enter), .input (.press (.char 'b'))])
      x.tab.picker.catalog.map Record.title = ["Alpha"] ∧
        (x.store.hits .entities ⟨"", false⟩).map Record.title = ["Alpha", "Beta"] ∧
        again.tab.picker.candidates.map Record.title = [] ∧
        (again.store.hits .entities ⟨"b", false⟩).map Record.title = ["Beta"] := by
  refine ⟨fun h => ?_, by decide, by decide, by decide, by decide⟩
  let es : List DialogueEvent :=
    [.input .activate, .input (.press .up), .input (.press .enter), .input (.press (.char 'l')),
      .input (.press .esc)]
  have hawaits : (run .relationships es).Awaits 2
      ⟨.relationships, .candidates, 2, .query .entities ⟨"l", false⟩⟩ := ⟨rfl, rfl, rfl⟩
  have hsame : Request.query .entities ⟨"l", false⟩ = .query .entities ⟨"", false⟩ := h es 2 _ hawaits
  simp at hsame

end Dialogue

end RecordDesk
