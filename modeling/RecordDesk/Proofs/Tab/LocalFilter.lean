import Mathlib.Data.List.Induction
import RecordDesk.Proofs.Tab.Bench
import RecordDesk.Proofs.Tab.Convergence

/-!
Typing a search shows its hits at once, filtered from the catalog, and asks the store for the same search. On
a tab that has settled without a search, and a store that nothing else changes, the two agree: the rows are
the very records that the query will find (`filter_agrees`). So the answers may come at any time and in any
order, and nothing of them is seen.

What carries this through the keys, the calls and the deliveries is `Aligned`: the catalog is all that the
store holds, the rows are what it holds for the search, and every answer under way is what it would answer
now.
-/

namespace RecordDesk

/-- The keys that edit the search in the rows. -/
def Key.editsSearch : Key → Bool
  | .tab => true
  | .backspace => true
  | .esc => true
  | .ctrl 'u' => true
  | k => k.printable?.isSome

/-- A key that edits the search, a call or a delivery. -/
def ExchangeEvent.isSearching : ExchangeEvent → Bool
  | .input (.press k) => k.editsSearch
  | .call _ => true
  | .deliver _ => true
  | _ => false

/-! ## Queries of the store -/

namespace Store

/-- A search filters what is found without it. -/
theorem filter_hits (s : Store) (kind : Kind) (search : String) (archived : Bool) :
    ((s.hits kind ⟨"", archived⟩).filter fun r => Search.hit search r.title) =
      s.hits kind ⟨search, archived⟩ := by
  unfold hits
  rw [List.filter_filter]
  refine List.filter_congr fun r _ => ?_
  rw [Search.hit_empty, Bool.and_true, Bool.and_comm]

/-- A query is only written into the log. -/
theorem store_ask_query (s : Store) (kind : Kind) (filter : QueryFilter) :
    (service.ask (.query kind filter) s).2 =
      s.logged .query (kind.name ++ " " ++ Text.quoted filter.search) := by
  cases hf : s.failure? .query with
  | some message => simp only [Service.ask, service, spoken, query, call_of_failure hf]
  | none => simp only [Service.ask, service, spoken, query, call_of_working hf]

end Store

/-! ## Keys that edit the search -/

namespace Tab

/-- What such a key can do: search for something else, or at most change the marks. -/
inductive Searches (t : Tab) : Tab × List Command → Prop where
  | search (text : String) : Searches t (t.setSearch text)
  | mark (marks : NameSet) : Searches t ({ t with marks }, [])

theorem searches_nothing (t : Tab) : t.Searches (t, []) := .mark t.marks

theorem searches_clearSearch (t : Tab) : t.Searches t.clearSearch := by
  unfold clearSearch
  split
  · exact searches_nothing t
  · exact .search ""

theorem searches_typeSearch (t : Tab) (k : Key) : t.Searches (t.typeSearch k) := by
  unfold typeSearch
  split
  · exact .search _
  · exact searches_nothing t

theorem searches_pressRows (t : Tab) {k : Key} (hk : k.editsSearch = true) : t.Searches (t.pressRows k) := by
  unfold pressRows
  split
  case h_1 | h_2 | h_3 | h_7 | h_8 | h_9 | h_10 => exact absurd hk Bool.false_ne_true
  · split
    · exact .search _
    · exact searches_nothing t
  · split
    · exact searches_nothing t
    · exact .search _
  · exact searches_clearSearch t
  · split
    · exact .mark _
    · exact searches_clearSearch t
  · split
    · split
      · exact .mark _
      · exact searches_nothing t
    · exact searches_typeSearch t _
  · exact searches_typeSearch t _

/-- Rows that are there already, put in again, change nothing. -/
theorem applyRows_rows {t : Tab} (list : t.list.Shows (t.rows.map t.kind.rowLabel))
    (catalog : t.search = "" → t.catalog = t.rows) : t.applyRows t.rows = t := by
  have hlist := list.setItems
  unfold applyRows setRows
  split
  · next hsearch =>
    have hcatalog := catalog (String.isEmpty_iff.1 hsearch)
    cases t
    simp only at hcatalog hlist ⊢
    rw [hlist, hcatalog]
  · cases t
    simp only at hlist ⊢
    rw [hlist]

end Tab

namespace Exchange

/-! ## The tab of an exchange -/

/-- A call is made of a command that waits for it, or is no event. -/
theorem call_cases (x : Exchange) (n : Nat) :
    x.step (.call n) = x ∨ ∃ c, x.issued[n]? = some c ∧ x.progress n = .waiting := by
  cases hc : x.issued[n]? with
  | none => simp only [step, hc, true_or]
  | some c =>
    cases hp : x.progress n with
    | waiting => exact .inr ⟨c, rfl, rfl⟩
    | called | delivered => simp only [step, hc, hp, true_or]

theorem deliver_cases (x : Exchange) (n : Nat) :
    x.step (.deliver n) = x ∨ ∃ c outcome, x.issued[n]? = some c ∧ x.progress n = .called outcome := by
  cases hc : x.issued[n]? with
  | none => simp only [step, hc, true_or]
  | some c =>
    cases hp : x.progress n with
    | called outcome => exact .inr ⟨c, outcome, rfl, rfl⟩
    | waiting | delivered => simp only [step, hc, hp, true_or]

theorem tab_step (x : Exchange) (e : ExchangeEvent) :
    (x.step e).tab = x.tab ∨ ∃ te, (x.step e).tab = (x.tab.handle te).1 := by
  cases e with
  | input i => exact .inr ⟨.input i, rfl⟩
  | fail op message => exact .inl rfl
  | recover op => exact .inl rfl
  | call n =>
    rcases call_cases x n with hsame | ⟨c, hc, hw⟩
    · exact .inl (congrArg tab hsame)
    · rw [call_eq x hc hw]
      exact .inl rfl
  | deliver n =>
    rcases deliver_cases x n with hsame | ⟨c, outcome, hc, hp⟩
    · exact .inl (congrArg tab hsame)
    · rw [deliver_eq x hc hp]
      exact .inr ⟨.deliver (c.delivery outcome), rfl⟩

theorem run_append (kind : Kind) (s : Store) (es fs : List ExchangeEvent) :
    run kind s (es ++ fs) = fs.foldl step (run kind s es) := List.foldl_append

/-- The tab of an exchange is one that some events lead to. -/
theorem exists_after (kind : Kind) (s : Store) (es : List ExchangeEvent) :
    ∃ ts, (run kind s es).tab = Tab.after kind ts := by
  induction es using List.reverseRecOn with
  | nil => exact ⟨[], rfl⟩
  | append_singleton es e ih =>
    obtain ⟨ts, hts⟩ := ih
    rw [run_append]
    rcases tab_step (run kind s es) e with hsame | ⟨te, hte⟩
    · exact ⟨ts, hsame.trans hts⟩
    · refine ⟨ts ++ [te], hte.trans ?_⟩
      rw [hts, Tab.after_concat]

/-! ## The invariant -/

/-- The keys land in the rows; the catalog is what the store holds, and the rows what it holds for the
search; and what is under way are queries for the rows, answered as the store would answer them now. -/
structure Aligned (x : Exchange) : Prop where
  editors : x.tab.editors = []
  view : x.tab.view.isList = true
  focus : x.tab.focus = .rows
  catalog : x.tab.catalog = x.store.hits x.tab.kind ⟨"", x.tab.includeArchived⟩
  rows : x.tab.rows = x.hits
  list : x.tab.list.Shows (x.tab.rows.map x.tab.kind.rowLabel)
  working : x.store.failure? .query = none
  loads : ∀ {n c}, x.issued[n]? = some c → (x.progress n).isDelivered = false → c.slot = .load
  answers : ∀ {n c outcome}, x.issued[n]? = some c → x.progress n = .called outcome →
    outcome = (Store.service.ask c.request x.store).1

/-- The rows are the catalog, filtered by the search. -/
theorem Aligned.rows_eq_filter {x : Exchange} (h : x.Aligned) :
    x.tab.rows = x.tab.catalog.filter fun r => Search.hit x.tab.search r.title := by
  rw [h.catalog, Store.filter_hits]
  exact h.rows

/-! ## Steps -/

/-- One of the queries has been called or delivered. -/
theorem Aligned.mark {x : Exchange} (h : x.Aligned) {n : Nat} {p : Progress}
    (hrun : p.isDelivered = false → (x.progress n).isDelivered = false)
    (hanswer : ∀ {c outcome}, x.issued[n]? = some c → p = .called outcome →
      outcome = (Store.service.ask c.request x.store).1) : (x.mark n p).Aligned where
  editors := h.editors
  view := h.view
  focus := h.focus
  catalog := h.catalog
  rows := h.rows
  list := h.list
  working := h.working
  loads {m c} hc hun := by
    by_cases hmn : m = n
    · subst hmn
      rw [progress_mark_self] at hun
      exact h.loads hc (hrun hun)
    · rw [progress_mark_ne hmn] at hun
      exact h.loads hc hun
  answers {m c outcome} hc hp := by
    by_cases hmn : m = n
    · subst hmn
      rw [progress_mark_self] at hp
      exact hanswer hc hp
    · rw [progress_mark_ne hmn] at hp
      exact h.answers hc hp

/-- What is under way are queries. -/
theorem Aligned.exists_query {x : Exchange} (h : x.Aligned) (ho : x.Orderly) {n : Nat} {c : Command}
    (hc : x.issued[n]? = some c) (hun : (x.progress n).isDelivered = false) :
    ∃ kind filter, c.request = .query kind filter := by
  have hadmits := ho.admits hc
  rw [h.loads hc hun] at hadmits
  cases hr : c.request with
  | query kind filter => exact ⟨kind, filter, rfl⟩
  | get | create | update | bulkUpdate | revert | listScopes | listActors =>
    rw [hr] at hadmits
    exact absurd hadmits Bool.false_ne_true

/-- An entry in the log of the store leaves all answers what they would be. -/
theorem Aligned.logged {x : Exchange} (h : x.Aligned) (ho : x.Orderly) (op : Operation) (detail : String) :
    (x.withStore (x.store.logged op detail)).Aligned where
  editors := h.editors
  view := h.view
  focus := h.focus
  catalog := h.catalog
  rows := h.rows
  list := h.list
  working := h.working
  loads := h.loads
  answers {n c outcome} hc hp := by
    have hcalled : x.progress n = .called outcome := hp
    have hworking : (x.store.logged op detail).failure? .query = none := h.working
    obtain ⟨kind, filter, hr⟩ := h.exists_query ho hc (by rw [hcalled]; rfl)
    rw [h.answers hc hcalled, hr, Store.ask_query_of_working h.working]
    exact (Store.ask_query_of_working hworking kind filter).symm

/-- The answer to a query that is under way is what the store holds for it. -/
theorem Aligned.answer_eq {x : Exchange} (h : x.Aligned) (ho : x.Orderly) {n : Nat} {c : Command}
    {outcome : Except String Answer} (hc : x.issued[n]? = some c) (hp : x.progress n = .called outcome)
    (hs : x.tab.isStale c.slot c.generation = false) : outcome = .ok (.records x.tab.rows) := by
  have hslot : c.slot = .load := h.loads hc (by rw [hp]; rfl)
  have hgeneration : x.tab.generation = c.generation := by
    rw [hslot, Tab.isStale_load] at hs
    exact bne_eq_false_iff_eq.1 hs
  have hquery : c = x.tab.rowsQuery := ho.newest (ho.isNewestLoad hc hslot hgeneration) hc
  rw [h.answers hc hp, hquery, h.rows]
  exact Store.ask_query_of_working h.working _ _

/-- A delivery frees the slot of the query, or is dropped. -/
theorem Aligned.deliver_eq {x : Exchange} (h : x.Aligned) (ho : x.Orderly) {n : Nat} {c : Command}
    {outcome : Except String Answer} (hc : x.issued[n]? = some c) (hp : x.progress n = .called outcome) :
    ∃ requests,
      x.step (.deliver n) = (x.mark n (.delivered outcome)).withTab { x.tab with requests } := by
  rw [Exchange.deliver_eq x hc hp]
  cases hs : x.tab.isStale c.slot c.generation with
  | true =>
    refine ⟨x.tab.requests, ?_⟩
    rw [Tab.deliver_of_isStale (d := c.delivery outcome) hs, follow_quiet]
  | false =>
    have hslot : c.slot = .load := h.loads hc (by rw [hp]; rfl)
    have hanswer := h.answer_eq ho hc hp hs
    have hcatalog (hsearch : x.tab.search = "") : x.tab.catalog = x.tab.rows := by
      rw [h.rows_eq_filter, hsearch]
      exact (List.filter_eq_self.2 fun r _ => Search.hit_empty r.title).symm
    let t : Tab := { x.tab with requests := x.tab.requests.set c.slot .idle }
    have happly : t.applyAnswer c.slot c.generation (.records x.tab.rows) = (t, []) := by
      rw [hslot]
      exact congrArg (·, []) (Tab.applyRows_rows (t := t) h.list hcatalog)
    refine ⟨t.requests, ?_⟩
    rw [Tab.deliver_ok (d := c.delivery outcome) hs hanswer, ← follow_quiet]
    exact congrArg (follow _) happly

theorem Aligned.deliver {x : Exchange} (h : x.Aligned) (ho : x.Orderly) (n : Nat) :
    (x.step (.deliver n)).Aligned ∧ (x.step (.deliver n)).store.records = x.store.records := by
  rcases deliver_cases x n with hsame | ⟨c, outcome, hc, hp⟩
  · rw [hsame]
    exact ⟨h, rfl⟩
  · obtain ⟨requests, heq⟩ := h.deliver_eq ho hc hp
    have hmark : (x.mark n (.delivered outcome)).Aligned :=
      h.mark (fun hun => absurd hun Bool.true_eq_false.mp) fun _ hp => by cases hp
    rw [heq]
    exact ⟨{ hmark with }, rfl⟩

/-- The call of a query leaves all answers what they would be. -/
theorem Aligned.call {x : Exchange} (h : x.Aligned) (ho : x.Orderly) (n : Nat) :
    (x.step (.call n)).Aligned ∧ (x.step (.call n)).store.records = x.store.records := by
  rcases call_cases x n with hsame | ⟨c, hc, hw⟩
  · rw [hsame]
    exact ⟨h, rfl⟩
  · have hun : (x.progress n).isDelivered = false := by
      rw [hw]
      rfl
    obtain ⟨kind, filter, hr⟩ := h.exists_query ho hc hun
    rw [call_eq x hc hw, hr, Store.store_ask_query]
    have hlogged := h.logged ho .query (kind.name ++ " " ++ Text.quoted filter.search)
    refine ⟨hlogged.mark (fun _ => hun) fun {d outcome} hd hp => ?_, rfl⟩
    obtain rfl : c = d := Option.some.inj (hc.symm.trans hd)
    cases hp
    rw [hr, Store.ask_query_of_working h.working]
    exact (Store.ask_query_of_working hlogged.working kind filter).symm

/-- A new search filters the catalog, and sends one more query. -/
theorem Aligned.follow_search {x : Exchange} (h : x.Aligned) (ho : x.Orderly) {t : Tab}
    (ht : (x.withTab t).Aligned) (search : String) : (x.follow (t.setSearch search)).Aligned where
  editors := ht.editors
  view := by
    rcases Tab.listView_eq { t with search } with hview | hview
    · exact congrArg View.isList hview
    · exact congrArg View.isList hview
  focus := ht.focus
  catalog := ht.catalog
  rows := by
    have hcatalog : t.catalog = x.store.hits t.kind ⟨"", t.includeArchived⟩ := ht.catalog
    show (t.catalog.filter fun r => Search.hit search r.title) =
      x.store.hits t.kind ⟨search, t.includeArchived⟩
    rw [hcatalog, Store.filter_hits]
  list := ht.list.framed.shows_setItems _
  working := h.working
  loads hc hun := by
    rcases getElem?_concat_iff.1 hc with hc | ⟨-, rfl⟩
    · exact h.loads hc hun
    · rfl
  answers hc hp := by
    rcases getElem?_concat_iff.1 hc with hc | ⟨rfl, -⟩
    · exact h.answers hc hp
    · cases (ho.waiting (Nat.le_refl _)).symm.trans hp

/-- A key that edits the search issues nothing, or the query for what the rows have become. -/
theorem Aligned.press {x : Exchange} (h : x.Aligned) (ho : x.Orderly) {k : Key} (hk : k.editsSearch = true) :
    (x.step (.input (.press k))).Aligned ∧
      ((x.tab.press k).2 = [] ∨ (x.tab.press k).2 = [(x.tab.press k).1.rowsQuery]) := by
  show (x.follow (x.tab.press k)).Aligned ∧ _
  rw [Tab.press_of_rows h.editors h.view h.focus]
  have marked (marks : NameSet) : (x.withTab { x.tab with error := none, notice := none, marks }).Aligned :=
    { h with }
  have searches := Tab.searches_pressRows { x.tab with error := none, notice := none } hk
  generalize Tab.pressRows _ k = r at searches
  cases searches with
  | search text => exact ⟨h.follow_search ho (marked x.tab.marks) text, .inr rfl⟩
  | mark marks =>
    rw [follow_quiet]
    exact ⟨marked marks, .inl rfl⟩

theorem Aligned.step {x : Exchange} (h : x.Aligned) (ho : x.Orderly) {e : ExchangeEvent}
    (he : e.isSearching = true) :
    (x.step e).Aligned ∧ (x.step e).store.records = x.store.records := by
  cases e with
  | fail op message => exact absurd he Bool.false_ne_true
  | recover op => exact absurd he Bool.false_ne_true
  | input i =>
    cases i with
    | press k => exact ⟨(h.press ho he).1, rfl⟩
    | activate | reload | viewport => exact absurd he Bool.false_ne_true
  | call n => exact h.call ho n
  | deliver n => exact h.deliver ho n

/-! ## Runs -/

theorem Aligned.append {kind : Kind} {s : Store} {es fs : List ExchangeEvent}
    (h : (run kind s es).Aligned) (hfs : ∀ e ∈ fs, e.isSearching = true) :
    (run kind s (es ++ fs)).Aligned ∧
      (run kind s (es ++ fs)).store.records = (run kind s es).store.records := by
  induction fs generalizing es with
  | nil =>
    rw [List.append_nil]
    exact ⟨h, rfl⟩
  | cons e fs ih =>
    obtain ⟨he, hrest⟩ := List.forall_mem_cons.1 hfs
    obtain ⟨hstep, hrecords⟩ := h.step (invariants_run kind s es).1 he
    have hsnoc : run kind s (es ++ [e]) = (run kind s es).step e := run_append kind s es [e]
    rw [← hsnoc] at hstep hrecords
    obtain ⟨hend, hsame⟩ := ih hstep hrest
    rw [List.append_cons]
    exact ⟨hend, hsame.trans hrecords⟩

/-- Once a tab has settled without a search, the catalog is what the store holds. -/
theorem aligned_of_settled {kind : Kind} {s : Store} {es : List ExchangeEvent}
    (h : (run kind s es).Settled) (search : (run kind s es).tab.search = "")
    (view : (run kind s es).tab.view = .list) (focus : (run kind s es).tab.focus = .rows)
    (working : (run kind s es).store.failure? .query = none) : (run kind s es).Aligned := by
  obtain ⟨-, hcurrent⟩ := invariants_run kind s es
  obtain ⟨ts, hts⟩ := exists_after kind s es
  have hcoherent := Tab.coherent_after kind ts
  have htidy := Tab.tidy_after kind ts
  rw [← hts] at hcoherent htidy
  generalize run kind s es = x at *
  obtain ⟨n, a, hn, hp⟩ := h.loaded
  have ha : a = .records x.hits :=
    (hcurrent.fresh hn (by rw [hp]; rfl)).resolve_right h.not_changeUnderWay
  have hrows : x.tab.rows = x.hits := hcurrent.shown hn (ha ▸ hp)
  have delivered {n : Nat} {c : Command} (hc : x.issued[n]? = some c) :
      (x.progress n).isDelivered = true := h.delivered n (List.getElem?_eq_some_iff.1 hc).1
  refine ⟨hcoherent.editors_nil (hcoherent.form_none (.inl view)), congrArg View.isList view, focus, ?_, hrows,
    htidy.list, working, fun hc hun => ?_, fun hc hcalled => ?_⟩
  · rw [← search]
    exact (htidy.catalog search).trans hrows
  · exact absurd ((delivered hc).symm.trans hun) Bool.true_eq_false.mp
  · have hdelivered := delivered hc
    rw [hcalled] at hdelivered
    exact absurd hdelivered Bool.false_ne_true

/-- From a state without a search in which all commands have been answered, let keys edit the search, and
let calls and deliveries come in any order. Each key leaves rows that are the catalog filtered by the
search. It issues nothing, or one query, and whenever that is called the store finds these rows. And
whatever is delivered changes nothing of the tab but the states of its requests. -/
theorem filter_agrees (kind : Kind) (s : Store) (es : List ExchangeEvent) (h : (run kind s es).Settled)
    (search : (run kind s es).tab.search = "") (view : (run kind s es).tab.view = .list)
    (focus : (run kind s es).tab.focus = .rows)
    (working : (run kind s es).store.failure? .query = none) (fs : List ExchangeEvent)
    (hfs : ∀ e ∈ fs, e.isSearching = true) :
    let x := run kind s (es ++ fs)
    (∀ k, k.editsSearch = true →
      let r := x.tab.press k
      (r.1.rows = r.1.catalog.filter fun record => Search.hit r.1.search record.title) ∧
        (r.2 = [] ∨ r.2 = [r.1.rowsQuery]) ∧
        ∀ c ∈ r.2, ∀ gs : List ExchangeEvent, (∀ e ∈ gs, e.isSearching = true) →
          (Store.service.ask c.request
            (run kind s ((es ++ fs ++ [.input (.press k)]) ++ gs)).store).1 = .ok (.records r.1.rows)) ∧
    ∀ n, ∃ requests, (x.step (.deliver n)).tab = { x.tab with requests } := by
  intro x
  have hx : x.Aligned := ((aligned_of_settled h search view focus working).append hfs).1
  have ho : x.Orderly := (invariants_run kind s (es ++ fs)).1
  refine ⟨fun k hk => ?_, fun n => ?_⟩
  · intro r
    obtain ⟨hnext, hsent⟩ := hx.press ho hk
    refine ⟨hnext.rows_eq_filter, hsent, fun c hc gs hgs => ?_⟩
    have hquery : c = r.1.rowsQuery := by
      rcases hsent with hnone | hone
      · exact absurd (hnone ▸ hc) List.not_mem_nil
      · exact List.mem_singleton.1 (hone ▸ hc)
    have hsnoc : run kind s (es ++ fs ++ [.input (.press k)]) = x.step (.input (.press k)) :=
      run_append kind s (es ++ fs) [.input (.press k)]
    rw [← hsnoc] at hnext
    obtain ⟨hlater, hrecords⟩ := hnext.append hgs
    have hrows : r.1.rows = (run kind s (es ++ fs ++ [.input (.press k)])).store.hits r.1.kind
        ⟨r.1.search, r.1.includeArchived⟩ := by
      have hhits := hnext.rows
      rw [hsnoc] at hhits ⊢
      exact hhits
    rw [hquery, hrows, ← Store.hits_congr hrecords]
    exact Store.ask_query_of_working hlater.working _ _
  · rcases deliver_cases x n with hsame | ⟨c, outcome, hc, hp⟩
    · exact ⟨x.tab.requests, congrArg tab hsame⟩
    · obtain ⟨requests, heq⟩ := hx.deliver_eq ho hc hp
      exact ⟨requests, congrArg tab heq⟩

/-- The list of jobs is loaded. -/
def loadingJobs : List ExchangeEvent := [.input .activate, .call 0, .deliver 0]

theorem settled_loadingJobs : (run .jobs oneJob loadingJobs).Settled where
  delivered := by decide
  loaded := by
    refine ⟨0, .records [.named .jobs "job-1" "paint"], ⟨rfl, fun m hm => ?_⟩, rfl⟩
    cases h : (run .jobs oneJob loadingJobs).isLoadAt m with
    | false => rfl
    | true =>
      have hlt : m < 1 := lt_of_isLoadAt h
      omega

/-- Two letters are typed, the first of which is looked for after the second one. -/
def typingAhead : List ExchangeEvent :=
  [.input (.press (.char 'p')), .input (.press (.char 'x')), .call 2, .call 1, .deliver 2]

/-- The job that the second letter took away is back when that is taken back, and stays. -/
theorem filter_agrees_typingAhead :
    let x := run .jobs oneJob (loadingJobs ++ typingAhead)
    let r := x.tab.press .backspace
    (run .jobs oneJob loadingJobs).Settled ∧ x.tab.rows.length = 0 ∧ r.1.rows.length = 1 ∧
      r.2 = [r.1.rowsQuery] ∧
      (Store.service.ask r.1.rowsQuery.request
        (run .jobs oneJob (loadingJobs ++ typingAhead ++ [.input (.press .backspace)] ++ [.call 3])).store).1 =
          .ok (.records r.1.rows) ∧
      ∃ requests, (x.step (.deliver 1)).tab = { x.tab with requests } := by
  have hgone : (run .jobs oneJob (loadingJobs ++ typingAhead)).tab.rows.length = 0 := rfl
  have hback : ((run .jobs oneJob (loadingJobs ++ typingAhead)).tab.press .backspace).1.rows.length = 1 := rfl
  intro x r
  obtain ⟨hkeys, hdeliveries⟩ := filter_agrees .jobs oneJob loadingJobs settled_loadingJobs rfl rfl rfl rfl
    typingAhead (by decide)
  obtain ⟨-, -, hanswers⟩ := hkeys .backspace rfl
  have hsent : r.2 = [r.1.rowsQuery] := rfl
  have hmem : r.1.rowsQuery ∈ r.2 := by
    rw [hsent]
    exact List.mem_singleton_self _
  refine ⟨settled_loadingJobs, hgone, hback, hsent, ?_, hdeliveries 1⟩
  exact hanswers r.1.rowsQuery hmem [.call 3] (by decide)

end Exchange

end RecordDesk
