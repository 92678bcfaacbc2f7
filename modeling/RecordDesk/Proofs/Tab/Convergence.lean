import RecordDesk.Proofs.StoreCalls
import RecordDesk.Proofs.Tab.Steps

/-!
A tab at work on a store that nothing else writes to. Keys, calls and deliveries come in any order.
Once every command has been answered, and the newest query for the rows with success, the rows are the
records that the store holds for the search (`rows_eq_hits_of_settled`).

A query may well be made before a change that was issued before it, and be delivered after it. What
saves the rows is that the delivery of a successful change queries them again. So the invariant, for
the newest query alone, is that its answer is what the store holds, or else a change has been made
whose delivery is still to come (`Current`).
-/

namespace RecordDesk

/-- How far an issued command has come. -/
inductive Progress where
  | waiting
  | called (outcome : Except String Answer)
  | delivered (outcome : Except String Answer)

def Progress.isDelivered : Progress → Bool
  | .delivered _ => true
  | _ => false

/-- The answer of a call that was made and did not fail. -/
def Progress.answer? : Progress → Option Answer
  | .called (.ok a) => some a
  | .delivered (.ok a) => some a
  | _ => none

/-- `progress n` tells of the command at index `n` of those that the tab has issued. -/
structure Exchange where
  tab : Tab
  store : Store
  issued : List Command
  progress : Nat → Progress

inductive ExchangeEvent where
  | input (i : TabInput)
  | call (n : Nat)
  | deliver (n : Nat)
  | fail (op : Operation) (message : String)
  | recover (op : Operation)

namespace Exchange

def new (kind : Kind) (s : Store) : Exchange := ⟨.new kind, s, [], fun _ => .waiting⟩

def mark (x : Exchange) (n : Nat) (p : Progress) : Exchange :=
  { x with progress := fun m => if m = n then p else x.progress m }

def withTab (x : Exchange) (t : Tab) : Exchange := { x with tab := t }

def withStore (x : Exchange) (s : Store) : Exchange := { x with store := s }

/-- The tab has moved on and issued more commands. -/
def follow (x : Exchange) (r : Tab × List Command) : Exchange :=
  { x with tab := r.1, issued := x.issued ++ r.2 }

/-- A command is called once, and its outcome is delivered once; all else is no event. -/
def step (x : Exchange) : ExchangeEvent → Exchange
  | .input i => x.follow (x.tab.take i)
  | .call n =>
    match x.issued[n]?, x.progress n with
    | some c, .waiting =>
      let (d, s) := c.invoke Store.service x.store
      (x.withStore s).mark n (.called d.outcome)
    | _, _ => x
  | .deliver n =>
    match x.issued[n]?, x.progress n with
    | some c, .called outcome => (x.mark n (.delivered outcome)).follow (x.tab.deliver (c.delivery outcome))
    | _, _ => x
  | .fail op message => x.withStore (x.store.fail op message)
  | .recover op => x.withStore (x.store.recover op)

def run (kind : Kind) (s : Store) (es : List ExchangeEvent) : Exchange := es.foldl step (new kind s)

def isLoadAt (x : Exchange) (n : Nat) : Bool := x.issued[n]?.any (·.slot = .load)

/-- The command at an index is the last query for the rows so far. -/
def IsNewestLoad (x : Exchange) (n : Nat) : Prop :=
  x.isLoadAt n = true ∧ ∀ m, n < m → x.isLoadAt m = false

/-- All commands have been answered, and the newest query for the rows with success. -/
structure Settled (x : Exchange) : Prop where
  delivered : ∀ n, n < x.issued.length → (x.progress n).isDelivered = true
  loaded : ∃ n a, x.IsNewestLoad n ∧ x.progress n = .delivered (.ok a)

/-- What the list asks for now. -/
def filter (x : Exchange) : QueryFilter := ⟨x.tab.search, x.tab.includeArchived⟩

/-- The records that the store holds for what the list asks for. -/
def hits (x : Exchange) : List Record := x.store.hits x.tab.kind x.filter

/-! ## Commands at their places -/

theorem isLoadAt_iff {x : Exchange} {n : Nat} :
    x.isLoadAt n = true ↔ ∃ c, x.issued[n]? = some c ∧ c.slot = .load := by
  unfold isLoadAt
  cases h : x.issued[n]? with
  | none => simp
  | some c => simp

theorem lt_of_isLoadAt {x : Exchange} {n : Nat} (h : x.isLoadAt n = true) : n < x.issued.length := by
  obtain ⟨c, hc, -⟩ := isLoadAt_iff.mp h
  exact (List.getElem?_eq_some_iff.mp hc).1

theorem getElem?_concat_iff {cs : List Command} {c d : Command} {n : Nat} :
    (cs ++ [c])[n]? = some d ↔ cs[n]? = some d ∨ n = cs.length ∧ d = c := by
  rw [List.getElem?_append]
  split
  · next h =>
    constructor
    · exact Or.inl
    · rintro (h' | ⟨rfl, -⟩)
      · exact h'
      · omega
  · next h =>
    rw [List.getElem?_eq_none (l := cs) (by omega)]
    cases hn : n - cs.length with
    | zero =>
      have : n = cs.length := by omega
      simp [this, eq_comm]
    | succ k =>
      have : n ≠ cs.length := by omega
      simp [this]

/-! ## The invariants -/

/-- A change that the store has made and the tab has not heard of. -/
def ChangeUnderWay (x : Exchange) : Prop :=
  ∃ n c a, x.issued[n]? = some c ∧ c.request.isMutating = true ∧ x.progress n = .called (.ok a)

/-- The numbering of the queries: the newest one asks for what the list shows now, and all others are
out of date. -/
structure Orderly (x : Exchange) : Prop where
  admits : ∀ {n : Nat} {c : Command}, x.issued[n]? = some c → c.slot.admits c.request = true
  waiting : ∀ {n : Nat}, x.issued.length ≤ n → x.progress n = .waiting
  answers : ∀ {n : Nat} {c : Command} {a : Answer}, x.issued[n]? = some c →
    x.progress n = .called (.ok a) → c.request.answeredBy a = true
  newest : ∀ {n : Nat} {c : Command}, x.IsNewestLoad n → x.issued[n]? = some c → c = x.tab.rowsQuery
  older : ∀ {m n : Nat} {c : Command}, m < n → x.isLoadAt m = true → x.isLoadAt n = true →
    x.issued[m]? = some c → c.generation < x.tab.generation

/-- The newest query has the answer that the store would give now, unless a change is under way; and
once it is delivered, the list shows it. -/
structure Current (x : Exchange) : Prop where
  fresh : ∀ {n a}, x.IsNewestLoad n → (x.progress n).answer? = some a →
    a = .records x.hits ∨ x.ChangeUnderWay
  shown : ∀ {n rs}, x.IsNewestLoad n → x.progress n = .delivered (.ok (.records rs)) → x.tab.rows = rs

/-! ## Marks and other tabs -/

@[simp] theorem issued_mark (x : Exchange) (n : Nat) (p : Progress) : (x.mark n p).issued = x.issued := rfl

@[simp] theorem hits_mark (x : Exchange) (n : Nat) (p : Progress) : (x.mark n p).hits = x.hits := rfl

@[simp] theorem progress_withTab (x : Exchange) (t : Tab) : (x.withTab t).progress = x.progress := rfl

theorem progress_mark_self (x : Exchange) (n : Nat) (p : Progress) : (x.mark n p).progress n = p :=
  if_pos rfl

theorem progress_mark_ne {m n : Nat} (h : m ≠ n) (x : Exchange) (p : Progress) :
    (x.mark n p).progress m = x.progress m := if_neg h

theorem IsNewestLoad.unique {x : Exchange} {m n : Nat} (hm : x.IsNewestLoad m) (hn : x.IsNewestLoad n) :
    m = n := by
  rcases Nat.lt_trichotomy m n with h | h | h
  · exact absurd hn.1 (by rw [hm.2 n h]; exact Bool.false_ne_true)
  · exact h
  · exact absurd hm.1 (by rw [hn.2 m h]; exact Bool.false_ne_true)

theorem Orderly.mark {x : Exchange} (ho : x.Orderly) {n : Nat} {c : Command} {p : Progress}
    (hc : x.issued[n]? = some c) (hp : ∀ a, p = .called (.ok a) → c.request.answeredBy a = true) :
    (x.mark n p).Orderly where
  admits := ho.admits
  waiting {m} hm := by
    have hn : n < x.issued.length := (List.getElem?_eq_some_iff.mp hc).1
    rw [progress_mark_ne (by simp only [issued_mark] at hm; omega)]
    exact ho.waiting hm
  answers {m d a} hd ha := by
    by_cases h : m = n
    · subst h
      rw [progress_mark_self] at ha
      rw [issued_mark, hc, Option.some.injEq] at hd
      rw [← hd]
      exact hp a ha
    · rw [progress_mark_ne h] at ha
      exact ho.answers hd ha
  newest := ho.newest
  older := ho.older

theorem Orderly.withTab {x : Exchange} (ho : x.Orderly) {t : Tab} (h : t.rowsQuery = x.tab.rowsQuery) :
    (x.withTab t).Orderly where
  admits := ho.admits
  waiting := ho.waiting
  answers := ho.answers
  newest hn hc := (ho.newest hn hc).trans h.symm
  older hmn hm hn hc := by
    have hg : t.generation = x.tab.generation := congrArg Command.generation h
    show _ < t.generation
    rw [hg]
    exact ho.older hmn hm hn hc

theorem Orderly.withStore {x : Exchange} (ho : x.Orderly) (s : Store) :
    (x.withStore s).Orderly where
  admits := ho.admits
  waiting := ho.waiting
  answers := ho.answers
  newest := ho.newest
  older := ho.older

/-- A query for the rows that is not out of date is the newest one. -/
theorem Orderly.isNewestLoad {x : Exchange} (ho : x.Orderly) {n : Nat} {c : Command}
    (hc : x.issued[n]? = some c) (hs : c.slot = .load) (hg : x.tab.generation = c.generation) :
    x.IsNewestLoad n := by
  have hn : x.isLoadAt n = true := isLoadAt_iff.mpr ⟨c, hc, hs⟩
  refine ⟨hn, fun m hm => ?_⟩
  cases h : x.isLoadAt m with
  | false => rfl
  | true =>
    have := ho.older hm hn h hc
    omega

/-! ## Moves of the tab -/

theorem isLoadAt_follow_concat {x : Exchange} {t : Tab} {c : Command} {n : Nat} :
    (x.follow (t, [c])).isLoadAt n = true ↔
      x.isLoadAt n = true ∨ n = x.issued.length ∧ c.slot = .load := by
  simp only [isLoadAt_iff, follow, getElem?_concat_iff]
  constructor
  · rintro ⟨d, hd | ⟨rfl, rfl⟩, hs⟩
    · exact .inl ⟨d, hd, hs⟩
    · exact .inr ⟨rfl, hs⟩
  · rintro (⟨d, hd, hs⟩ | ⟨rfl, hs⟩)
    · exact ⟨d, .inl hd, hs⟩
    · exact ⟨c, .inr ⟨rfl, rfl⟩, hs⟩

theorem isNewestLoad_follow_load {x : Exchange} {t : Tab} {c : Command} {n : Nat} (hc : c.slot = .load)
    (h : (x.follow (t, [c])).IsNewestLoad n) : n = x.issued.length := by
  rcases isLoadAt_follow_concat.mp h.1 with hn | ⟨hn, -⟩
  · have hlast : (x.follow (t, [c])).isLoadAt x.issued.length = true :=
      isLoadAt_follow_concat.mpr (.inr ⟨rfl, hc⟩)
    rw [h.2 _ (lt_of_isLoadAt hn)] at hlast
    exact absurd hlast Bool.false_ne_true
  · exact hn

theorem isNewestLoad_of_follow {x : Exchange} {t : Tab} {c : Command} {n : Nat} (hc : c.slot ≠ .load)
    (h : (x.follow (t, [c])).IsNewestLoad n) : x.IsNewestLoad n := by
  rcases isLoadAt_follow_concat.mp h.1 with hn | ⟨-, hs⟩
  · refine ⟨hn, fun m hm => ?_⟩
    cases hx : x.isLoadAt m with
    | false => rfl
    | true =>
      rw [← h.2 m hm]
      exact (isLoadAt_follow_concat.mpr (.inl hx)).symm
  · exact absurd hs hc

theorem ChangeUnderWay.follow {x : Exchange} (h : x.ChangeUnderWay) (r : Tab × List Command) :
    (x.follow r).ChangeUnderWay := by
  obtain ⟨n, c, a, hc, hm, ha⟩ := h
  exact ⟨n, c, a, List.getElem?_append_left (List.getElem?_eq_some_iff.mp hc).1 ▸ hc, hm, ha⟩

theorem Orderly.admits_concat {x : Exchange} (ho : x.Orderly) {c d : Command} {n : Nat}
    (hc : c.slot.admits c.request = true) (hd : (x.issued ++ [c])[n]? = some d) :
    d.slot.admits d.request = true := by
  rcases getElem?_concat_iff.mp hd with hd | ⟨-, rfl⟩
  · exact ho.admits hd
  · exact hc

/-- A command that has just been issued has not been called. -/
theorem Orderly.answers_concat {x : Exchange} (ho : x.Orderly) {c d : Command} {n : Nat} {a : Answer}
    (hd : (x.issued ++ [c])[n]? = some d) (ha : x.progress n = .called (.ok a)) :
    d.request.answeredBy a = true := by
  rcases getElem?_concat_iff.mp hd with hd | ⟨rfl, -⟩
  · exact ho.answers hd ha
  · exact absurd (ha.symm.trans (ho.waiting (Nat.le_refl _))) (by simp)

/-- One more command that is no query for the rows. -/
theorem Orderly.follow_other {x : Exchange} (ho : x.Orderly) {t : Tab} {c : Command}
    (ht : t.rowsQuery = x.tab.rowsQuery) (hc : c.slot.admits c.request = true) (hs : c.slot ≠ .load) :
    (x.follow (t, [c])).Orderly where
  admits hd := ho.admits_concat hc hd
  waiting hn := ho.waiting (by simp only [follow, List.length_append] at hn; omega)
  answers hd ha := ho.answers_concat hd ha
  newest {n d} hn hd := by
    rcases getElem?_concat_iff.mp hd with hd | ⟨rfl, rfl⟩
    · exact (ho.newest (isNewestLoad_of_follow hs hn) hd).trans ht.symm
    · exact absurd (lt_of_isLoadAt (isNewestLoad_of_follow hs hn).1) (Nat.lt_irrefl _)
  older {m n d} hmn hm hn hd := by
    have of_load {k : Nat} (hk : (x.follow (t, [c])).isLoadAt k = true) : x.isLoadAt k = true := by
      rcases isLoadAt_follow_concat.mp hk with hk | ⟨-, hk⟩
      · exact hk
      · exact absurd hk hs
    have hg : t.generation = x.tab.generation := congrArg Command.generation ht
    have hlt := lt_of_isLoadAt (of_load hm)
    rcases getElem?_concat_iff.mp hd with hd | ⟨rfl, -⟩
    · show d.generation < t.generation
      rw [hg]
      exact ho.older hmn (of_load hm) (of_load hn) hd
    · omega

/-- One more query for the rows, under the next generation. -/
theorem Orderly.follow_reload {x : Exchange} (ho : x.Orderly) {t : Tab}
    (hg : t.generation = x.tab.generation) : (x.follow t.reload).Orderly where
  admits hd := ho.admits_concat rfl hd
  waiting hn := ho.waiting (by simp only [follow, Tab.reload, List.length_append] at hn; omega)
  answers hd ha := ho.answers_concat hd ha
  newest {n d} hn hd := by
    rcases getElem?_concat_iff.mp hd with hd | ⟨-, rfl⟩
    · have hlt := (List.getElem?_eq_some_iff.mp hd).1
      have := isNewestLoad_follow_load rfl hn
      omega
    · rfl
  older {m n d} hmn hm hn hd := by
    have hlt : m < x.issued.length := by
      have := lt_of_isLoadAt hn
      simp only [follow, Tab.reload, List.length_append, List.length_singleton] at this
      omega
    rcases getElem?_concat_iff.mp hd with hd | ⟨rfl, -⟩
    · have hm' : x.isLoadAt m = true := by
        rcases isLoadAt_follow_concat.mp hm with hm | ⟨hm, -⟩
        · exact hm
        · omega
      show d.generation < t.generation + 1
      -- The command at `m` was the newest query before, or it was out of date already.
      by_cases hnew : x.IsNewestLoad m
      · have hq : d.generation = x.tab.generation := congrArg Command.generation (ho.newest hnew hd)
        omega
      · have hlater : ∃ k, m < k ∧ x.isLoadAt k = true := by
          refine Classical.byContradiction fun hno => hnew ⟨hm', fun k hk => ?_⟩
          cases hx : x.isLoadAt k with
          | false => rfl
          | true => exact absurd ⟨k, hk, hx⟩ hno
        obtain ⟨k, hk, hx⟩ := hlater
        have := ho.older hk hm' hx hd
        omega
    · omega

theorem hits_withTab {x : Exchange} {t : Tab} (h : t.rowsQuery = x.tab.rowsQuery) :
    (x.withTab t).hits = x.hits := by
  have hk : t.kind = x.tab.kind := congrArg Command.tab h
  have hr : Request.query t.kind (x.withTab t).filter = .query x.tab.kind x.filter :=
    congrArg Command.request h
  show x.store.hits t.kind (x.withTab t).filter = x.store.hits x.tab.kind x.filter
  rw [hk, (Request.query.inj hr).2]

theorem hits_withStore {x : Exchange} {s : Store} (h : s.records = x.store.records) :
    (x.withStore s).hits = x.hits := Store.hits_congr h _ _

theorem follow_quiet (x : Exchange) (t : Tab) : x.follow (t, []) = x.withTab t := by
  simp [follow, withTab]

theorem Current.withTab {x : Exchange} (hx : x.Current) {t : Tab} (hq : t.rowsQuery = x.tab.rowsQuery)
    (hr : t.rows = x.tab.rows) : (x.withTab t).Current where
  fresh hn ha := by
    rw [hits_withTab hq]
    exact hx.fresh hn ha
  shown hn hp := hr.trans (hx.shown hn hp)

/-- The query that has just been issued has no answer yet. -/
theorem Orderly.current_reload {x : Exchange} (ho : x.Orderly) (t : Tab) : (x.follow t.reload).Current where
  fresh {n a} hn ha := by
    rw [isNewestLoad_follow_load rfl hn] at ha
    exact absurd (ho.waiting (Nat.le_refl _) ▸ ha) (by simp [Progress.answer?])
  shown {n rs} hn hp := by
    rw [isNewestLoad_follow_load rfl hn] at hp
    exact absurd (hp.symm.trans (ho.waiting (Nat.le_refl _))) (by simp)

theorem Current.follow_other {x : Exchange} (hx : x.Current) {t : Tab} {c : Command}
    (hq : t.rowsQuery = x.tab.rowsQuery) (hr : t.rows = x.tab.rows) (hs : c.slot ≠ .load) :
    (x.follow (t, [c])).Current where
  fresh hn ha := by
    rw [show (x.follow (t, [c])).hits = (x.withTab t).hits from rfl, hits_withTab hq]
    exact (hx.fresh (isNewestLoad_of_follow hs hn) ha).imp id fun h => h.follow (t, [c])
  shown hn hp := hr.trans (hx.shown (isNewestLoad_of_follow hs hn) hp)

/-- No move of the tab breaks the invariants. -/
theorem Orderly.follow_move {x : Exchange} (ho : x.Orderly) {r : Tab × List Command}
    (h : x.tab.Move r) : (x.follow r).Orderly := by
  cases h with
  | quiet h =>
    rw [follow_quiet]
    exact ho.withTab (Tab.rowsQuery_of_standing h)
  | load h => exact ho.follow_reload (congrArg Traffic.generation h)
  | candidates h =>
    have hq := Tab.rowsQuery_of_standing h
    exact ho.follow_other hq rfl Slot.noConfusion
  | request h gated _ admits =>
    have hq := Tab.rowsQuery_of_standing h
    exact ho.follow_other hq admits (Slot.ne_load_of_isGated gated)

theorem Current.follow_move {x : Exchange} (hx : x.Current) (ho : x.Orderly) {r : Tab × List Command}
    (h : x.tab.Move r) : (x.follow r).Current := by
  cases h with
  | quiet h =>
    rw [follow_quiet]
    exact hx.withTab (Tab.rowsQuery_of_standing h) (congrArg Standing.rows h)
  | load _ => exact ho.current_reload _
  | candidates h =>
    have hq := Tab.rowsQuery_of_standing h
    have hr := congrArg Standing.rows h
    exact hx.follow_other hq hr Slot.noConfusion
  | request h gated _ _ =>
    have hq := Tab.rowsQuery_of_standing h
    have hr := congrArg Standing.rows h
    exact hx.follow_other hq hr (Slot.ne_load_of_isGated gated)

theorem invariants_follow_moves {x : Exchange} (ho : x.Orderly) (hx : x.Current) {r : Tab × List Command}
    (h : Tab.Moves x.tab r) : (x.follow r).Orderly ∧ (x.follow r).Current := by
  let past (t : Tab) (cs : List Command) : Exchange := ⟨t, x.store, cs, x.progress⟩
  refine h.preserves (fun t cs => (past t cs).Orderly ∧ (past t cs).Current) ?_ ⟨ho, hx⟩
  rintro t cs r ⟨hot, hxt⟩ hm
  exact ⟨hot.follow_move hm, hxt.follow_move hot hm⟩

/-! ## Calls -/

theorem ChangeUnderWay.mark {x : Exchange} (h : x.ChangeUnderWay) {n : Nat}
    (hn : ∀ c a, x.issued[n]? = some c → c.request.isMutating = true → x.progress n ≠ .called (.ok a))
    (p : Progress) : (x.mark n p).ChangeUnderWay := by
  obtain ⟨m, c, a, hc, hm, ha⟩ := h
  refine ⟨m, c, a, hc, hm, ?_⟩
  rw [progress_mark_ne]
  · exact ha
  · rintro rfl
    exact hn c a hc hm ha

theorem call_eq (x : Exchange) {n : Nat} {c : Command} (hc : x.issued[n]? = some c)
    (hw : x.progress n = .waiting) :
    x.step (.call n) = (x.withStore (Store.service.ask c.request x.store).2).mark n
      (.called (Store.service.ask c.request x.store).1) := by
  simp only [step, hc, hw, Command.invoke]

theorem Orderly.call {x : Exchange} (ho : x.Orderly) {n : Nat} {c : Command}
    (hc : x.issued[n]? = some c) (hw : x.progress n = .waiting) : (x.step (.call n)).Orderly := by
  rw [call_eq x hc hw]
  refine (ho.withStore _).mark hc fun a ha => ?_
  rw [Progress.called.injEq] at ha
  exact Request.answeredBy_of_ask _ ha

theorem hits_call_of_records {x : Exchange} {n : Nat} {c : Command} (hc : x.issued[n]? = some c)
    (hw : x.progress n = .waiting)
    (hs : (Store.service.ask c.request x.store).2.records = x.store.records) :
    (x.step (.call n)).hits = x.hits := by
  rw [call_eq x hc hw, hits_mark, hits_withStore hs]

/-- A call either leaves what a query would find as it was, or is a change that went through. -/
theorem hits_call_or_change {x : Exchange} {n : Nat} {c : Command} (hc : x.issued[n]? = some c)
    (hw : x.progress n = .waiting) :
    (x.step (.call n)).hits = x.hits ∨ (x.step (.call n)).ChangeUnderWay := by
  cases hmut : c.request.isMutating with
  | false =>
    left
    exact hits_call_of_records hc hw (Store.records_ask_of_not_mutating hmut x.store)
  | true =>
    cases hask : (Store.service.ask c.request x.store).1 with
    | ok a =>
      right
      refine ⟨n, c, a, ?_, hmut, ?_⟩
      · rw [call_eq x hc hw]
        exact hc
      · rw [call_eq x hc hw, progress_mark_self, hask]
    | error e =>
      left
      exact hits_call_of_records hc hw (Store.records_ask_of_error hask)

theorem ChangeUnderWay.call {x : Exchange} (h : x.ChangeUnderWay) {n : Nat} {c : Command}
    (hc : x.issued[n]? = some c) (hw : x.progress n = .waiting) : (x.step (.call n)).ChangeUnderWay := by
  rw [call_eq x hc hw]
  refine ChangeUnderWay.mark (x := x.withStore _) h (fun d a _ _ ha => ?_) _
  exact absurd (hw.symm.trans ha) (by simp)

/-- The newest query answers with what the store holds when it is called. -/
theorem Orderly.answer_call {x : Exchange} (ho : x.Orderly) {n : Nat} {c : Command}
    (hc : x.issued[n]? = some c) (hw : x.progress n = .waiting) (hn : x.IsNewestLoad n) {a : Answer}
    (ha : ((x.step (.call n)).progress n).answer? = some a) : a = .records (x.step (.call n)).hits := by
  have hcq := ho.newest hn hc
  have hmut : c.request.isMutating = false := by
    rw [hcq]
    rfl
  rw [hits_call_of_records hc hw (Store.records_ask_of_not_mutating hmut x.store)]
  rw [call_eq x hc hw, progress_mark_self] at ha
  cases hask : (Store.service.ask c.request x.store).1 with
  | ok b =>
    obtain rfl : b = a := by simpa [hask, Progress.answer?] using ha
    rw [hcq] at hask
    exact Store.ask_query_ok hask
  | error e => simp [hask, Progress.answer?] at ha

theorem progress_call_ne {x : Exchange} {n m : Nat} {c : Command} (hc : x.issued[n]? = some c)
    (hw : x.progress n = .waiting) (h : m ≠ n) : (x.step (.call n)).progress m = x.progress m := by
  rw [call_eq x hc hw, progress_mark_ne h]
  rfl

theorem Current.call {x : Exchange} (hx : x.Current) (ho : x.Orderly) {n : Nat} {c : Command}
    (hc : x.issued[n]? = some c) (hw : x.progress n = .waiting) : (x.step (.call n)).Current := by
  have hnewest {m : Nat} (hm : (x.step (.call n)).IsNewestLoad m) : x.IsNewestLoad m := by
    rw [call_eq x hc hw] at hm
    exact hm
  refine ⟨fun {m a} hm ha => ?_, fun {m rs} hm hp => ?_⟩
  · by_cases hmn : m = n
    · subst hmn
      left
      exact ho.answer_call hc hw (hnewest hm) ha
    · rw [progress_call_ne hc hw hmn] at ha
      rcases hx.fresh (hnewest hm) ha with h | h
      · rcases hits_call_or_change hc hw with hh | hh
        · left
          rw [hh]
          exact h
        · right
          exact hh
      · right
        exact h.call hc hw
  · by_cases hmn : m = n
    · subst hmn
      rw [call_eq x hc hw, progress_mark_self] at hp
      exact absurd hp (by simp)
    · rw [progress_call_ne hc hw hmn] at hp
      have htab : (x.step (.call n)).tab = x.tab := by
        rw [call_eq x hc hw]
        rfl
      rw [htab]
      exact hx.shown (hnewest hm) hp

/-! ## Deliveries -/

theorem deliver_eq (x : Exchange) {n : Nat} {c : Command} {outcome : Except String Answer}
    (hc : x.issued[n]? = some c) (hp : x.progress n = .called outcome) :
    x.step (.deliver n) = (x.mark n (.delivered outcome)).follow (x.tab.deliver (c.delivery outcome)) := by
  simp only [step, hc, hp]

theorem Orderly.mark_delivered {x : Exchange} (ho : x.Orderly) {n : Nat} {c : Command}
    (hc : x.issued[n]? = some c) (outcome : Except String Answer) :
    (x.mark n (.delivered outcome)).Orderly :=
  ho.mark hc fun _ h => by cases h

/-- Handing over an outcome that is neither the answer to the newest query nor a change keeps what the
list shows current. -/
theorem Current.mark_delivered {x : Exchange} (hx : x.Current) {n : Nat} {c : Command}
    {outcome : Except String Answer} (hc : x.issued[n]? = some c) (hp : x.progress n = .called outcome)
    (hload : ∀ a, outcome = .ok a → ¬ x.IsNewestLoad n)
    (hmut : ∀ a, outcome = .ok a → c.request.isMutating = false) :
    (x.mark n (.delivered outcome)).Current := by
  refine ⟨fun {m a} hm ha => ?_, fun {m rs} hm hs => ?_⟩
  · have hne : m ≠ n := by
      rintro rfl
      rw [progress_mark_self] at ha
      cases outcome with
      | ok b => exact hload b rfl hm
      | error e => simp [Progress.answer?] at ha
    rw [progress_mark_ne hne] at ha
    refine (hx.fresh hm ha).imp id fun h => h.mark (fun d b hd hm hb => ?_) _
    rw [hc, Option.some.injEq] at hd
    rw [hp, Progress.called.injEq] at hb
    rw [← hd, hmut b hb] at hm
    exact Bool.false_ne_true hm
  · have hne : m ≠ n := by
      rintro rfl
      rw [progress_mark_self, Progress.delivered.injEq] at hs
      exact hload _ hs hm
    rw [progress_mark_ne hne] at hs
    exact hx.shown hm hs

theorem isGated_of_isMutating {c : Command} (h : c.slot.admits c.request = true)
    (hm : c.request.isMutating = true) : c.slot.isGated = true := by
  obtain ⟨tab, slot, generation, r⟩ := c
  cases r <;> first
    | exact absurd hm Bool.false_ne_true
    | (cases slot <;> first | rfl | exact absurd h Bool.false_ne_true)

/-- A delivery that is out of date changes nothing, and concerned an older query. -/
theorem invariants_deliver_stale {x : Exchange} (ho : x.Orderly) (hx : x.Current) {n : Nat} {c : Command}
    {outcome : Except String Answer} (hc : x.issued[n]? = some c) (hp : x.progress n = .called outcome)
    (hs : x.tab.isStale c.slot c.generation = true) :
    (x.step (.deliver n)).Orderly ∧ (x.step (.deliver n)).Current := by
  rw [deliver_eq x hc hp, Tab.deliver_of_isStale (d := c.delivery outcome) hs, follow_quiet]
  have hload : ¬ x.IsNewestLoad n := by
    intro h
    have hq := ho.newest h hc
    rw [hq] at hs
    simp [Tab.rowsQuery, Tab.isStale_load] at hs
  have hmut : c.request.isMutating = false := by
    cases h : c.request.isMutating with
    | false => rfl
    | true =>
      rw [Tab.isStale_of_isGated (isGated_of_isMutating (ho.admits hc) h)] at hs
      exact hs.symm
  exact ⟨ho.mark_delivered hc outcome, hx.mark_delivered hc hp (fun _ _ => hload) (fun _ _ => hmut)⟩

/-- A failure frees the slots and says so, but keeps the list. -/
theorem invariants_deliver_error {x : Exchange} (ho : x.Orderly) (hx : x.Current) {n : Nat} {c : Command}
    {message : String} (hc : x.issued[n]? = some c) (hp : x.progress n = .called (.error message))
    (hs : x.tab.isStale c.slot c.generation = false) :
    (x.step (.deliver n)).Orderly ∧ (x.step (.deliver n)).Current := by
  rw [deliver_eq x hc hp, Tab.deliver_error (d := c.delivery (.error message)) hs rfl, follow_quiet]
  have hx' : (x.mark n (.delivered (.error message))).Current :=
    hx.mark_delivered hc hp (fun _ h => by cases h) (fun _ h => by cases h)
  exact ⟨(ho.mark_delivered hc _).withTab rfl, hx'.withTab rfl rfl⟩

/-- The answer to the newest query for the rows is what the list shows from now on. -/
theorem invariants_deliver_load {x : Exchange} (ho : x.Orderly) (hx : x.Current) {n : Nat} {c : Command}
    {a : Answer} (hc : x.issued[n]? = some c) (hp : x.progress n = .called (.ok a)) (hl : c.slot = .load)
    (hs : x.tab.isStale c.slot c.generation = false) :
    (x.step (.deliver n)).Orderly ∧ (x.step (.deliver n)).Current := by
  have hnew : x.IsNewestLoad n := by
    rw [hl, Tab.isStale_load, bne_eq_false_iff_eq] at hs
    exact ho.isNewestLoad hc hl hs
  have hq := ho.newest hnew hc
  obtain ⟨rs, rfl⟩ : ∃ rs, a = .records rs := by
    have ha := ho.answers hc hp
    rw [hq] at ha
    cases a <;> first | exact ⟨_, rfl⟩ | exact absurd ha Bool.false_ne_true
  rw [deliver_eq x hc hp, Tab.deliver_ok (d := c.delivery (.ok (.records rs))) hs rfl]
  have hd : (c.delivery (.ok (.records rs))).slot = .load := hl
  rw [hd, show ∀ t : Tab, t.applyAnswer .load (c.delivery (.ok (.records rs))).generation (.records rs) =
    (t.applyRows rs, []) from fun _ => rfl, follow_quiet]
  generalize ht : ({ x.tab with requests := x.tab.requests.set .load .idle } : Tab).applyRows rs = t
  have hrows : t.rows = rs := by rw [← ht]; rfl
  have hquery : t.rowsQuery = x.tab.rowsQuery := by
    rw [← ht]
    unfold Tab.applyRows
    split
    · rfl
    · rfl
  have ho' := (ho.mark_delivered hc (.ok (.records rs))).withTab hquery
  refine ⟨ho', fun {m b} hm hb => ?_, fun {m qs} hm hq => ?_⟩
  · obtain rfl : m = n := IsNewestLoad.unique (x := x) hm hnew
    have hb' : b = .records rs := by
      rw [progress_withTab, progress_mark_self] at hb
      exact (Option.some.inj hb).symm
    rw [hits_withTab (x := x.mark m _) hquery, hits_mark, hb']
    have hfresh : (Progress.called (.ok (.records rs))).answer? = some (.records rs) := rfl
    refine (hx.fresh hnew (by rw [hp]; exact hfresh)).imp id fun h => ?_
    refine h.mark (n := m) (fun d _ hd hmut _ => ?_) _
    rw [hc, Option.some.injEq] at hd
    rw [← hd, ho.newest hnew hc] at hmut
    exact Bool.false_ne_true hmut
  · obtain rfl : m = n := IsNewestLoad.unique (x := x) hm hnew
    rw [progress_withTab, progress_mark_self] at hq
    injection hq with hq
    injection hq with hq
    injection hq with hq
    rw [← hq]
    exact hrows

/-- Any other answer makes a move; that to a change issues a query, before which nothing counts. -/
theorem invariants_deliver_other {x : Exchange} (ho : x.Orderly) (hx : x.Current) {n : Nat} {c : Command}
    {a : Answer} (hc : x.issued[n]? = some c) (hp : x.progress n = .called (.ok a)) (hl : c.slot ≠ .load)
    (hs : x.tab.isStale c.slot c.generation = false) :
    (x.step (.deliver n)).Orderly ∧ (x.step (.deliver n)).Current := by
  rw [deliver_eq x hc hp, Tab.deliver_ok (d := c.delivery (.ok a)) hs rfl]
  generalize ht : ({ x.tab with requests := x.tab.requests.set (c.delivery (.ok a)).slot .idle } : Tab) = t
  have hquery : t.rowsQuery = x.tab.rowsQuery := by rw [← ht]; rfl
  have hrows : t.rows = x.tab.rows := by rw [← ht]
  -- The mark is put and the slot is freed first; then the answer moves the tab.
  have hfollow : ∀ r, (x.mark n (.delivered (.ok a))).follow r =
      ((x.mark n (.delivered (.ok a))).withTab t).follow r := fun _ => rfl
  rw [hfollow]
  have ho' := (ho.mark_delivered hc (.ok a)).withTab hquery
  have hmove : t.Move (t.applyAnswer c.slot c.generation a) := Tab.move_applyAnswer hl t _ a
  refine ⟨ho'.follow_move hmove, ?_⟩
  cases hmut : c.request.isMutating with
  | true =>
    obtain ⟨u, -, he⟩ :=
      Tab.applyAnswer_eq_reload (ho.admits hc) hmut (ho.answers hc hp) t c.generation
    show (((x.mark n (.delivered (.ok a))).withTab t).follow (t.applyAnswer c.slot c.generation a)).Current
    rw [he]
    exact ho'.current_reload u
  | false =>
    have hload : ¬ x.IsNewestLoad n := by
      intro h
      obtain ⟨d, hd, hdl⟩ := isLoadAt_iff.mp h.1
      rw [hc, Option.some.injEq] at hd
      exact hl (hd ▸ hdl)
    have hx' : (x.mark n (.delivered (.ok a))).Current :=
      hx.mark_delivered hc hp (fun _ _ => hload) (fun _ _ => hmut)
    exact (hx'.withTab hquery hrows).follow_move ho' hmove

/-! ## Runs -/

theorem Current.withStore {x : Exchange} (hx : x.Current) {s : Store} (h : s.records = x.store.records) :
    (x.withStore s).Current where
  fresh hn ha := by
    rw [hits_withStore h]
    exact hx.fresh hn ha
  shown hn hp := hx.shown hn hp

theorem orderly_new (kind : Kind) (s : Store) : (new kind s).Orderly where
  admits h := by simp [new] at h
  waiting _ := rfl
  answers h := by simp [new] at h
  newest _ h := by simp [new] at h
  older _ _ _ h := by simp [new] at h

theorem current_new (kind : Kind) (s : Store) : (new kind s).Current where
  fresh h := absurd (lt_of_isLoadAt h.1) (Nat.not_lt_zero _)
  shown h := absurd (lt_of_isLoadAt h.1) (Nat.not_lt_zero _)

theorem invariants_step {x : Exchange} (ho : x.Orderly) (hx : x.Current) (e : ExchangeEvent) :
    (x.step e).Orderly ∧ (x.step e).Current := by
  cases e with
  | input i => exact invariants_follow_moves ho hx (Tab.moves_take x.tab i)
  | call n =>
    cases hc : x.issued[n]? with
    | none => simp only [step, hc]; exact ⟨ho, hx⟩
    | some c =>
      cases hp : x.progress n with
      | waiting => exact ⟨ho.call hc hp, hx.call ho hc hp⟩
      | called o => simp only [step, hc, hp]; exact ⟨ho, hx⟩
      | delivered o => simp only [step, hc, hp]; exact ⟨ho, hx⟩
  | deliver n =>
    cases hc : x.issued[n]? with
    | none => simp only [step, hc]; exact ⟨ho, hx⟩
    | some c =>
      cases hp : x.progress n with
      | waiting => simp only [step, hc, hp]; exact ⟨ho, hx⟩
      | delivered o => simp only [step, hc, hp]; exact ⟨ho, hx⟩
      | called o =>
        cases hs : x.tab.isStale c.slot c.generation with
        | true => exact invariants_deliver_stale ho hx hc hp hs
        | false =>
          cases o with
          | error message => exact invariants_deliver_error ho hx hc hp hs
          | ok a =>
            by_cases hl : c.slot = .load
            · exact invariants_deliver_load ho hx hc hp hl hs
            · exact invariants_deliver_other ho hx hc hp hl hs
  | fail op message => exact ⟨ho.withStore _, hx.withStore rfl⟩
  | recover op => exact ⟨ho.withStore _, hx.withStore rfl⟩

theorem invariants_run (kind : Kind) (s : Store) (es : List ExchangeEvent) :
    (run kind s es).Orderly ∧ (run kind s es).Current := by
  unfold run
  generalize new kind s = x, orderly_new kind s = ho, current_new kind s = hx
  induction es generalizing x with
  | nil => exact ⟨ho, hx⟩
  | cons e es ih =>
    obtain ⟨ho', hx'⟩ := invariants_step ho hx e
    exact ih _ ho' hx'

/-- Once everything has been answered, no change is under way. -/
theorem Settled.not_changeUnderWay {x : Exchange} (h : x.Settled) : ¬ x.ChangeUnderWay := by
  rintro ⟨n, c, a, hc, -, ha⟩
  have hd := h.delivered n (List.getElem?_eq_some_iff.mp hc).1
  rw [ha] at hd
  exact Bool.false_ne_true hd

/-- When all commands of a tab have been answered, and the newest query for the rows with success, the
list shows the records that the store holds for the search, and a query would find just these. -/
theorem rows_eq_hits_of_settled (kind : Kind) (s : Store) (es : List ExchangeEvent)
    (h : (run kind s es).Settled) :
    let x := run kind s es
    x.tab.rows = x.store.hits x.tab.kind ⟨x.tab.search, x.tab.includeArchived⟩ ∧
      (x.store.failure? .query = none →
        (Store.query x.tab.kind ⟨x.tab.search, x.tab.includeArchived⟩ x.store).1 = .ok x.tab.rows) := by
  intro x
  obtain ⟨-, hx⟩ : x.Orderly ∧ x.Current := invariants_run kind s es
  obtain ⟨n, a, hn, hp⟩ := h.loaded
  have ha : a = .records x.hits := by
    have hanswer : (x.progress n).answer? = some a := by rw [hp]; rfl
    exact (hx.fresh hn hanswer).resolve_right h.not_changeUnderWay
  have hrows : x.tab.rows = x.hits := hx.shown hn (ha ▸ hp)
  refine ⟨hrows, fun hf => ?_⟩
  rw [Store.query_of_working hf, hrows]
  rfl

/-- A store with one job. -/
def oneJob : Store := Store.empty.setRecords .jobs [.named .jobs "job-1" "paint"]

/-- The job is archived while a query for the rows is under way, which is made before the change and
delivered after it. -/
def archiving : List ExchangeEvent :=
  [.input .activate, .call 0, .deliver 0, .input (.press .enter), .input (.press (.char 'a')),
    .input (.press (.char 'y')), .input .reload, .call 3, .call 2, .deliver 3, .deliver 2, .call 1,
    .deliver 1, .call 4, .deliver 4]

theorem settled_archiving : (run .jobs oneJob archiving).Settled where
  delivered := by decide
  loaded := by
    refine ⟨4, .records [], ⟨rfl, fun m hm => ?_⟩, rfl⟩
    cases h : (run .jobs oneJob archiving).isLoadAt m with
    | false => rfl
    | true =>
      have hlt : m < 5 := lt_of_isLoadAt h
      omega

theorem rows_after_archiving :
    let x := run .jobs oneJob archiving
    x.Settled ∧ x.tab.rows = x.store.hits .jobs ⟨"", false⟩ ∧ x.tab.rows.length = 0 ∧
      (x.store.hits .jobs ⟨"", true⟩).length = 1 :=
  ⟨settled_archiving, (rows_eq_hits_of_settled .jobs oneJob archiving settled_archiving).1, rfl, rfl⟩

end Exchange

end RecordDesk
