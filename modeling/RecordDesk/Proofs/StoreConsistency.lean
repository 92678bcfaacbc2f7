import RecordDesk.Proofs.StoreCalls

/-!
A store over any history of calls, failures and recoveries. What a call can do is said once (`Store.Responds`): it is
written into the log, and then it is refused and nothing changes, or it answers and nothing changes, or it puts in one
record, changes one, or changes those with some ids. From there follow what every history keeps, that no two records of
a kind have one id (`Consistent.run`), and that a record stays as it is until something changes it (`mem_run`). The main
statement, `consistent_store`, says what can be seen of that from outside.
-/

namespace RecordDesk

/-- The operation that a request is a call of. -/
def Request.operation : Request → Operation
  | .query _ _ => .query
  | .get _ _ => .get
  | .create _ => .create
  | .update _ _ _ => .update
  | .bulkUpdate _ _ _ => .bulkUpdate
  | .revert _ => .revert
  | .listScopes => .listScopes
  | .listActors => .listActors

/-- What stands behind the operation in the log of a store. -/
def Request.detail : Request → String
  | .query kind filter => kind.name ++ " " ++ Text.quoted filter.search
  | .get kind id => kind.name ++ "/" ++ id
  | .create p => p.kind.name
  | .update kind id _ => kind.name ++ "/" ++ id
  | .bulkUpdate kind ids _ => s!"{kind.name} x{ids.length}"
  | .revert id => id
  | .listScopes => ""
  | .listActors => ""

/-- The kind of the record that a request puts into the store and returns. -/
def Request.puts? : Request → Option Kind
  | .create p => some p.kind
  | .update kind _ _ => some kind
  | _ => none

/-- A request that changes the record of a kind that has an id. -/
def Request.Mutates (kind : Kind) (id : String) : Request → Prop
  | .update kind' id' _ => kind' = kind ∧ id' = id
  | .bulkUpdate kind' ids _ => kind' = kind ∧ id ∈ ids
  | _ => False

/-- What can happen to a store. -/
inductive StoreEvent where
  | ask (req : Request)
  | fail (op : Operation) (message : String)
  | recover (op : Operation)

namespace Store

def happen (s : Store) : StoreEvent → Store
  | .ask req => (service.ask req s).2
  | .fail op message => s.fail op message
  | .recover op => s.recover op

def run (s : Store) (es : List StoreEvent) : Store := es.foldl happen s

/-- The id of the record that is created as the n-th. -/
def newId (n : Nat) : String := s!"new-{n}"

theorem newId_injective {m n : Nat} (h : newId m = newId n) : m = n := by
  have hdigits := congrArg String.toList h
  simp only [newId, String.toList_append, List.append_cancel_left_eq] at hdigits
  have hvalue := congrArg (Nat.ofDigitChars 10 · 0) hdigits
  simpa [Nat.toString_eq_ofList_toDigits] using hvalue

def ids (s : Store) (kind : Kind) : List String := (s.records.get kind).map Record.id

/-- No two records of a kind have one id. -/
def Distinct (s : Store) : Prop := ∀ kind, (s.ids kind).Nodup

/-- In a run of a store no request has succeeded that changes the record of a kind with an id. -/
def Untouched (kind : Kind) (id : String) (s : Store) : List StoreEvent → Prop
  | [] => True
  | e :: es =>
    (∀ req, e = .ask req → req.Mutates kind id → ∃ message, (service.ask req s).1 = .error message) ∧
      Untouched kind id (s.happen e) es

/-! ## Calls -/

/-- The store after a request has been written into its log. -/
def written (s : Store) (req : Request) : Store := s.logged req.operation req.detail

/-- What a store can do when it is asked. -/
inductive Responds (s : Store) : Request → Except String Answer × Store → Prop where
  | refuse {req : Request} (message : String) : Responds s req (.error message, s.written req)
  | tell {req : Request} (a : Answer) (h : req.isMutating = false ∨ ∃ id, req = .revert id) :
      Responds s req (.ok a, s.written req)
  | create {p : Payload} {r : Record} (h : r = p.toRecord (newId (s.created + 1))) :
      Responds s (.create p) (.ok (.record r),
        { s.written (.create p) with created := s.created + 1 }.setRecords p.kind (s.records.get p.kind ++ [r]))
  | update {kind : Kind} {id : String} {r : Record} (body : UpdateBody) (h : s.find? kind id = some r) :
      Responds s (.update kind id body) (.ok (.record (updated r body)),
        (s.written (.update kind id body)).setRecords kind
          (replaceFirst id (updated · body) (s.records.get kind)))
  | edit (kind : Kind) (ids : List String) (e : BulkEdit) (n : Nat) :
      Responds s (.bulkUpdate kind ids e) (.ok (.updated n),
        (s.written (.bulkUpdate kind ids e)).setRecords kind ((s.records.get kind).map (swept ids e)))

/-- The answer of a call as a service gives it. -/
def spokenAs {α : Type} (answer : α → Answer) (a : Except StoreError α × Store) : Except String Answer × Store :=
  ((spoken a).1.map answer, (spoken a).2)

/-- A call that is to fail is refused; any other one is made, once it has been written into the log. -/
theorem responds_call {α : Type} {s : Store} {req : Request} (answer : α → Answer)
    {run : Store → Except StoreError α × Store} (h : s.Responds req (spokenAs answer (run (s.written req)))) :
    s.Responds req (spokenAs answer (call req.operation req.detail run s)) := by
  cases hf : s.failure? req.operation with
  | some message =>
    rw [call_of_failure hf]
    exact .refuse message
  | none =>
    rw [call_of_working hf]
    exact h

theorem responds_ask (s : Store) (req : Request) : s.Responds req (service.ask req s) := by
  cases req with
  | query kind filter => exact responds_call .records (.tell _ (.inl rfl))
  | get kind id =>
    refine responds_call .record ?_
    split
    · exact .tell _ (.inl rfl)
    · exact .refuse _
  | create p =>
    refine responds_call .record ?_
    split
    · exact .refuse _
    · exact .create rfl
  | update kind id body =>
    refine responds_call .record ?_
    split
    · exact .refuse _
    · next r hr => exact .update body hr
  | bulkUpdate kind ids e => exact responds_call .updated (.edit kind ids e _)
  | revert id => exact responds_call (fun _ => .reverted) (.tell _ (.inr ⟨id, rfl⟩))
  | listScopes => exact responds_call .names (.tell _ (.inl rfl))
  | listActors => exact responds_call .names (.tell _ (.inl rfl))

theorem find?_logged (s : Store) (op : Operation) (detail : String) (kind : Kind) (id : String) :
    (s.logged op detail).find? kind id = s.find? kind id := rfl

theorem ask_get_of_working {s : Store} (h : s.failure? .get = none) {kind : Kind} {id : String} {r : Record}
    (hr : s.find? kind id = some r) : (service.ask (.get kind id) s).1 = .ok (.record r) := by
  simp only [Service.ask, service, spoken, get, call_of_working h, find?_logged, hr]
  rfl

/-! ## Ids -/

/-- The ids are distinct, and those that the store has given are numbered up to its counter. -/
structure Consistent (s : Store) : Prop where
  distinct : s.Distinct
  given : ∀ kind n, newId n ∈ s.ids kind → n ≤ s.created

/-- Where no id occurs twice, a record is the only one with its id. -/
theorem filter_id_eq {rs : List Record} (h : (rs.map Record.id).Nodup) {r : Record} (hr : r ∈ rs) :
    rs.filter (·.id == r.id) = [r] := by
  induction rs with
  | nil => cases hr
  | cons x rs ih =>
    rw [List.map_cons, List.nodup_cons] at h
    rcases List.mem_cons.1 hr with rfl | hr
    · have hrest : rs.filter (·.id == r.id) = [] := by
        rw [List.filter_eq_nil_iff]
        intro y hy hid
        exact h.1 (List.mem_map.2 ⟨y, hy, beq_iff_eq.1 hid⟩)
      simp [hrest]
    · have hne : x.id ≠ r.id := fun hid => h.1 (hid ▸ List.mem_map_of_mem hr)
      simp [hne, ih h.2 hr]

theorem Distinct.find?_eq {s : Store} (h : s.Distinct) {kind : Kind} {r : Record} (hr : r ∈ s.records.get kind) :
    s.find? kind r.id = some r := by
  unfold find?
  rw [← List.head?_filter, filter_id_eq (h kind) hr, List.head?_cons]

theorem ids_setRecords (s : Store) (kind : Kind) (rs : List Record) (k : Kind) :
    (s.setRecords kind rs).ids k = if k = kind then rs.map Record.id else s.ids k := by
  unfold ids setRecords
  by_cases hk : k = kind
  · simp [hk]
  · simp [hk, PerKind.get_set_ne hk]

/-- What keeps all ids keeps them in order. -/
theorem Consistent.setRecords {s : Store} (h : s.Consistent) {kind : Kind} {rs : List Record}
    (hrs : rs.map Record.id = s.ids kind) : (s.setRecords kind rs).Consistent := by
  have hids (k : Kind) : (s.setRecords kind rs).ids k = s.ids k := by
    rw [ids_setRecords, hrs]
    split
    · next hk => rw [hk]
    · rfl
  exact ⟨fun k => hids k ▸ h.distinct k, fun k n hn => h.given k n (hids k ▸ hn)⟩

/-- The next id that the store gives is a new one. -/
theorem Consistent.create {s : Store} (h : s.Consistent) {kind : Kind} {r : Record}
    (hr : r.id = newId (s.created + 1)) :
    ({ s with created := s.created + 1 }.setRecords kind (s.records.get kind ++ [r])).Consistent := by
  have hids (k : Kind) : ({ s with created := s.created + 1 }.setRecords kind (s.records.get kind ++ [r])).ids k =
      if k = kind then s.ids kind ++ [newId (s.created + 1)] else s.ids k := by
    rw [ids_setRecords, List.map_append, List.map_singleton, hr]
    rfl
  have hfresh (k : Kind) : newId (s.created + 1) ∉ s.ids k := fun hmem =>
    Nat.not_succ_le_self _ (h.given k _ hmem)
  constructor
  · intro k
    rw [hids]
    split
    · rw [List.nodup_append]
      refine ⟨h.distinct kind, by simp, fun a ha b hb hab => ?_⟩
      rw [hab, List.mem_singleton.1 hb] at ha
      exact hfresh kind ha
    · exact h.distinct k
  · intro k n hn
    rw [hids] at hn
    show n ≤ s.created + 1
    split at hn
    · rcases List.mem_append.1 hn with hold | hnew
      · exact Nat.le_succ_of_le (h.given kind n hold)
      · exact Nat.le_of_eq (newId_injective (List.mem_singleton.1 hnew))
    · exact Nat.le_succ_of_le (h.given k n hn)

theorem id_toRecord (p : Payload) (id : String) : (p.toRecord id).id = id := by cases p <;> rfl

theorem id_updated (r : Record) (body : UpdateBody) : (updated r body).id = r.id := by
  cases body with
  | status st => rfl
  | full p =>
    unfold updated
    refine List.foldlRecOn (motive := fun u : Record => u.id = r.id) _ _ (id_toRecord p r.id) fun u hu f _ => ?_
    split
    · exact hu
    · exact hu

theorem map_id_replaceFirst {f : Record → Record} (hf : ∀ r, (f r).id = r.id) (id : String) (rs : List Record) :
    (replaceFirst id f rs).map Record.id = rs.map Record.id := by
  induction rs with
  | nil => rfl
  | cons x rs ih =>
    unfold replaceFirst
    split
    · simp [hf]
    · simp [ih]

theorem Consistent.responds {s : Store} (h : s.Consistent) {req : Request} {out : Except String Answer × Store}
    (responds : s.Responds req out) : out.2.Consistent := by
  have hwritten (req : Request) : (s.written req).Consistent := ⟨h.distinct, h.given⟩
  cases responds with
  | refuse | tell => exact hwritten req
  | create hr => exact (hwritten _).create (by rw [hr, id_toRecord]; rfl)
  | update body =>
    refine (hwritten _).setRecords ?_
    exact map_id_replaceFirst (fun r => id_updated r body) _ _
  | edit kind ids e =>
    refine (hwritten _).setRecords ?_
    rw [List.map_map]
    exact List.map_congr_left fun r _ => id_swept ids e r

theorem Consistent.happen {s : Store} (h : s.Consistent) (e : StoreEvent) : (s.happen e).Consistent := by
  cases e with
  | ask req => exact h.responds (s.responds_ask req)
  | fail | recover => exact ⟨h.distinct, h.given⟩

theorem Consistent.run {s : Store} (h : s.Consistent) (es : List StoreEvent) : (s.run es).Consistent :=
  List.foldlRecOn (motive := Consistent) es _ h fun _ ht e _ => ht.happen e

/-! ## Records -/

theorem mem_replaceFirst_of_ne {f : Record → Record} {id : String} {r : Record} (hid : r.id ≠ id) {rs : List Record}
    (hr : r ∈ rs) : r ∈ replaceFirst id f rs := by
  induction rs with
  | nil => cases hr
  | cons x rs ih =>
    unfold replaceFirst
    rcases List.mem_cons.1 hr with rfl | hr
    · simp [hid]
    · split
      · exact List.mem_cons_of_mem _ hr
      · exact List.mem_cons_of_mem _ (ih hr)

theorem mem_replaceFirst {f : Record → Record} {id : String} {r : Record} {rs : List Record}
    (hfind : rs.find? (·.id == id) = some r) : f r ∈ replaceFirst id f rs := by
  induction rs with
  | nil => cases hfind
  | cons x rs ih =>
    unfold replaceFirst
    by_cases hx : x.id = id
    · simp only [List.find?_cons, hx, beq_self_eq_true, Option.some.injEq] at hfind
      rw [if_pos hx, hfind]
      exact List.mem_cons_self
    · have hrest : rs.find? (·.id == id) = some r := by simpa [List.find?_cons, hx] using hfind
      simp [hx, ih hrest]

theorem mem_setRecords {s : Store} {kind k : Kind} {rs : List Record} {r : Record} (hr : r ∈ s.records.get k)
    (h : k = kind → r ∈ rs) : r ∈ (s.setRecords kind rs).records.get k := by
  unfold setRecords
  by_cases hk : k = kind
  · subst hk
    rw [PerKind.get_set_self]
    exact h rfl
  · rw [PerKind.get_set_ne hk]
    exact hr

/-- A record stays as it is, unless a request that succeeds changes it. -/
theorem Responds.keeps {s : Store} {req : Request} {out : Except String Answer × Store} (responds : s.Responds req out)
    {kind : Kind} {r : Record} (hr : r ∈ s.records.get kind)
    (hrefused : req.Mutates kind r.id → ∃ message, out.1 = .error message) : r ∈ out.2.records.get kind := by
  cases responds with
  | refuse | tell => exact hr
  | create =>
    refine mem_setRecords (s := { s.written _ with created := _ }) hr fun hk => ?_
    exact List.mem_append_left _ (hk ▸ hr)
  | update body hfind =>
    refine mem_setRecords (s := s.written _) hr fun hk => ?_
    refine mem_replaceFirst_of_ne (fun hid => ?_) (hk ▸ hr)
    obtain ⟨message, hout⟩ := hrefused ⟨hk.symm, hid.symm⟩
    cases hout
  | edit k ids e =>
    refine mem_setRecords (s := s.written _) hr fun hk => ?_
    have hout : r.id ∉ ids := by
      intro hid
      obtain ⟨message, hout⟩ := hrefused ⟨hk.symm, hid⟩
      cases hout
    refine List.mem_map.2 ⟨r, hk ▸ hr, ?_⟩
    unfold swept
    rw [if_neg (mt List.contains_iff_mem.1 hout)]

/-- The record that a request puts in and returns is in the store. -/
theorem Responds.puts {s : Store} {req : Request} {out : Except String Answer × Store} (responds : s.Responds req out)
    {kind : Kind} (hputs : req.puts? = some kind) {r : Record} (hout : out.1 = .ok (.record r)) :
    r ∈ out.2.records.get kind := by
  cases responds with
  | refuse => cases hout
  | tell a h =>
    -- What only tells puts nothing in.
    rcases h with h | ⟨id, rfl⟩
    · cases req with
      | create | update => cases h
      | query | get | bulkUpdate | revert | listScopes | listActors => cases hputs
    · cases hputs
  | create =>
    cases hout
    cases hputs
    unfold setRecords
    rw [PerKind.get_set_self]
    exact List.mem_append_right _ (List.mem_singleton_self _)
  | update body hfind =>
    cases hout
    cases hputs
    unfold setRecords
    rw [PerKind.get_set_self]
    exact mem_replaceFirst hfind
  | edit => cases hputs

theorem mem_run {kind : Kind} {r : Record} {s : Store} {es : List StoreEvent} (hr : r ∈ s.records.get kind)
    (h : s.Untouched kind r.id es) : r ∈ (s.run es).records.get kind := by
  induction es generalizing s with
  | nil => exact hr
  | cons e es ih =>
    refine ih ?_ h.2
    cases e with
    | ask req => exact (s.responds_ask req).keeps hr (h.1 req rfl)
    | fail | recover => exact hr

/-- A call that fails changes nothing, but it is in the log. -/
theorem Responds.of_error {s : Store} {req : Request} {out : Except String Answer × Store}
    (responds : s.Responds req out) {message : String} (h : out.1 = .error message) : out.2 = s.written req := by
  cases responds with
  | refuse => rfl
  | tell | create | update | edit => cases h

/-- An empty search that includes what is archived hits all records. -/
theorem hits_all (s : Store) (kind : Kind) : s.hits kind ⟨"", true⟩ = s.records.get kind := by
  have hhit (r : Record) : Search.hit "" r.title = true := rfl
  unfold hits
  simp [hhit]

/-- Whatever is asked of a store whose ids are distinct and none of its own making, and whatever is made to fail and
recovers: its ids stay distinct; a call that fails leaves everything as it was, except that it is in the log; and a
record that was put in is the answer to the calls for it, and stands once among all records of its kind, until a request
that changes it succeeds. -/
theorem consistent_store {s : Store} (hids : s.Distinct) (hnew : ∀ kind n, newId n ∉ s.ids kind)
    (es : List StoreEvent) :
    let t := s.run es
    t.Distinct ∧
    (∀ req message, (service.ask req t).1 = .error message →
      (service.ask req t).2 =
        { t with calls := t.calls ++ [Text.trimEnd (req.operation.name ++ " " ++ req.detail)] }) ∧
    ∀ req kind r, req.puts? = some kind → (service.ask req t).1 = .ok (.record r) →
      ∀ later, (service.ask req t).2.Untouched kind r.id later →
        let u := (service.ask req t).2.run later
        (u.failure? .get = none → (service.ask (.get kind r.id) u).1 = .ok (.record r)) ∧
        (u.failure? .query = none → ∃ rs, (service.ask (.query kind ⟨"", true⟩) u).1 = .ok (.records rs) ∧
          rs.filter (·.id == r.id) = [r]) := by
  intro t
  have hstart : s.Consistent := ⟨hids, fun kind n hn => absurd hn (hnew kind n)⟩
  have ht : t.Consistent := hstart.run es
  refine ⟨ht.distinct, fun req message h => (t.responds_ask req).of_error h, ?_⟩
  intro req kind r hputs hout later huntouched u
  have hput : r ∈ (service.ask req t).2.records.get kind := (t.responds_ask req).puts hputs hout
  have hr : r ∈ u.records.get kind := mem_run hput huntouched
  have hu : u.Consistent := (ht.responds (t.responds_ask req)).run later
  refine ⟨fun hworks => ask_get_of_working hworks (hu.distinct.find?_eq hr), fun hworks => ?_⟩
  refine ⟨u.records.get kind, ?_, filter_id_eq (hu.distinct kind) hr⟩
  rw [ask_query_of_working hworks, hits_all]

/-- A store of two jobs. -/
def twoShifts : Store :=
  { empty with
    records := empty.records.set .jobs [.named .jobs "job-1" "Day shift", .named .jobs "job-2" "Night shift"] }

/-- The second job is archived. What is asked afterwards does not change it: an update of it is refused, the other ones
are of another job. -/
theorem consistent_store_twoShifts :
    let archive : Request := .update .jobs "job-2" (.status .archived)
    let r : Record := { Record.named .jobs "job-2" "Night shift" with status := .archived }
    let t := twoShifts.run [.fail .get "offline", .ask (.get .jobs "job-2")]
    let later : List StoreEvent :=
      [.fail .update "busy", .ask (.update .jobs "job-2" (.status .active)), .recover .update, .recover .get,
        .ask (.bulkUpdate .jobs ["job-1"] ⟨.add, .tags, ["late"]⟩)]
    let u := (service.ask archive t).2.run later
    twoShifts.Distinct ∧ (∀ kind n, newId n ∉ twoShifts.ids kind) ∧
      (service.ask archive t).1 = .ok (.record r) ∧ (service.ask (.get .jobs "job-2") u).1 = .ok (.record r) ∧
      u.calls = ["get jobs/job-2", "update jobs/job-2", "update jobs/job-2", "bulk_update jobs x1"] := by
  intro archive r t later u
  have hids : twoShifts.Distinct := by
    intro kind
    cases kind <;> decide
  have hnew : ∀ kind n, newId n ∉ twoShifts.ids kind := by
    intro kind n hmem
    have hfirst : ∀ id ∈ twoShifts.ids kind, id.toList.head? ≠ some 'n' := by cases kind <;> decide
    refine hfirst _ hmem ?_
    rw [newId, String.toList_append]
    rfl
  have hout : (service.ask archive t).1 = .ok (.record r) := by rfl
  have huntouched : (service.ask archive t).2.Untouched .jobs "job-2" later := by
    refine ⟨nofun, fun req hreq _ => ?_, nofun, nofun, fun req hreq hchanges => ?_, trivial⟩
    · cases hreq
      exact ⟨"busy", rfl⟩
    · cases hreq
      exact absurd hchanges.2 (by decide)
  obtain ⟨-, -, hputs⟩ := consistent_store hids hnew [.fail .get "offline", .ask (.get .jobs "job-2")]
  have hget := (hputs archive .jobs r rfl hout later huntouched).1 (by rfl)
  exact ⟨hids, hnew, hout, hget, by decide +kernel⟩

end Store

end RecordDesk
