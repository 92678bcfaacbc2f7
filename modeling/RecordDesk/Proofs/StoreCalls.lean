import RecordDesk.Store

/-!
What the calls of a store leave alone. Only a call that succeeds and is meant to change records changes
any (`records_ask_of_not_mutating`, `records_ask_of_error`), and a query answers with the records that
it hits (`ask_query_ok`).
-/

namespace RecordDesk.Store

variable {α : Type}

/-- The store after a call has been written into its log. -/
def logged (s : Store) (op : Operation) (detail : String) : Store :=
  { s with calls := s.calls ++ [Text.trimEnd (op.name ++ " " ++ detail)] }

theorem call_of_failure {s : Store} {op : Operation} {message : String}
    (h : s.failure? op = some message) (detail : String) (run : Store → Except StoreError α × Store) :
    call op detail run s = (.error (.failing message), s.logged op detail) := by
  have hl : (s.logged op detail).failure? op = some message := h
  unfold call
  unfold logged at hl ⊢
  dsimp only
  rw [hl]

theorem call_of_working {s : Store} {op : Operation} (h : s.failure? op = none) (detail : String)
    (run : Store → Except StoreError α × Store) :
    call op detail run s = run (s.logged op detail) := by
  have hl : (s.logged op detail).failure? op = none := h
  unfold call
  unfold logged at hl ⊢
  dsimp only
  rw [hl]

/-- What a call keeps of the records is what its working part keeps. -/
theorem call_keeps {op : Operation} {run : Store → Except StoreError α × Store}
    (P : Except StoreError α → Prop) (h : ∀ s, P (run s).1 → (run s).2.records = s.records)
    (detail : String) (s : Store) (hp : P (call op detail run s).1) :
    (call op detail run s).2.records = s.records := by
  cases hf : s.failure? op with
  | some message => rw [call_of_failure hf]; rfl
  | none =>
    rw [call_of_working hf] at hp ⊢
    rw [h _ hp]
    rfl

theorem hits_congr {s s' : Store} (h : s'.records = s.records) (kind : Kind) (filter : QueryFilter) :
    s'.hits kind filter = s.hits kind filter := by
  unfold hits
  rw [h]

theorem query_of_working {s : Store} (h : s.failure? .query = none) (kind : Kind) (filter : QueryFilter) :
    (query kind filter s).1 = .ok (s.hits kind filter) := by
  unfold query
  rw [call_of_working h]
  rfl

/-! ## Calls as answers to requests -/

/-- A record after a bulk edit of the records with some ids. -/
def swept (ids : List String) (e : BulkEdit) (r : Record) : Record := if ids.contains r.id then edited e r else r

theorem id_swept (ids : List String) (e : BulkEdit) (r : Record) : (swept ids e r).id = r.id := by
  unfold swept edited
  split
  · split
    · rfl
    · rfl
  · rfl

/-- An update of some records is written into the log, made, and reported with the number of records. -/
theorem ask_bulkUpdate_of_working {s : Store} (h : s.failure? .bulkUpdate = none) (kind : Kind) (ids : List String)
    (e : BulkEdit) :
    service.ask (.bulkUpdate kind ids e) s =
      (.ok (.updated ((s.records.get kind).filter fun r => ids.contains r.id).length),
        (s.logged .bulkUpdate s!"{kind.name} x{ids.length}").setRecords kind
          ((s.records.get kind).map (swept ids e))) := by
  simp only [Service.ask, service, spoken, bulkUpdate, call_of_working h]
  rfl

theorem ask_query_of_working {s : Store} (h : s.failure? .query = none) (kind : Kind) (filter : QueryFilter) :
    (service.ask (.query kind filter) s).1 = .ok (.records (s.hits kind filter)) := by
  have hquery := query_of_working h kind filter
  simp only [Service.ask, service, spoken, hquery]
  rfl

theorem ask_query_ok {s : Store} {kind : Kind} {filter : QueryFilter} {a : Answer}
    (h : (service.ask (.query kind filter) s).1 = .ok a) : a = .records (s.hits kind filter) := by
  cases hf : s.failure? .query with
  | some message =>
    simp only [Service.ask, service, spoken, query, call_of_failure hf] at h
    cases h
  | none =>
    simp only [Service.ask, service, spoken, query, call_of_working hf] at h
    cases h
    rfl

theorem records_ask_of_not_mutating {r : Request} (h : r.isMutating = false) (s : Store) :
    (service.ask r s).2.records = s.records := by
  cases r with
  | query kind filter => exact call_keeps (fun _ => True) (fun _ _ => rfl) _ s trivial
  | get kind id =>
    refine call_keeps (fun _ => True) (fun s _ => ?_) _ s trivial
    split
    · rfl
    · rfl
  | listScopes => exact call_keeps (fun _ => True) (fun _ _ => rfl) _ s trivial
  | listActors => exact call_keeps (fun _ => True) (fun _ _ => rfl) _ s trivial
  | create | update | bulkUpdate | revert => exact absurd h Bool.true_eq_false.mp

/-- The message of a refused call stands for its error. -/
theorem isError_of_spoken {a : Except StoreError α} {β : Type} {f : α → β} {message : String}
    (h : (a.mapError StoreError.message).map f = .error message) : ∃ e, a = .error e := by
  cases a with
  | ok x => cases h
  | error e => exact ⟨e, rfl⟩

theorem records_ask_of_error {r : Request} {s : Store} {message : String}
    (h : (service.ask r s).1 = .error message) : (service.ask r s).2.records = s.records := by
  cases r with
  | create p =>
    refine call_keeps (fun a => ∃ e, a = .error e) (fun s => ?_) _ s (isError_of_spoken h)
    dsimp only
    split
    · exact fun _ => rfl
    · rintro ⟨e, he⟩
      cases he
  | update kind id body =>
    refine call_keeps (fun a => ∃ e, a = .error e) (fun s => ?_) _ s (isError_of_spoken h)
    split
    · exact fun _ => rfl
    · rintro ⟨e, he⟩
      cases he
  | bulkUpdate kind ids edit =>
    refine call_keeps (fun a => ∃ e, a = .error e) (fun s => ?_) _ s (isError_of_spoken h)
    rintro ⟨e, he⟩
    cases he
  | revert id => exact call_keeps (fun _ => True) (fun _ _ => rfl) _ s trivial
  | query | get | listScopes | listActors => exact records_ask_of_not_mutating rfl s

end RecordDesk.Store
