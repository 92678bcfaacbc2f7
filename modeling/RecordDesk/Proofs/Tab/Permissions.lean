import RecordDesk.Proofs.Form.Payloads
import RecordDesk.Proofs.Tab.Transitions

/-!
What a tab may ask of the service. A tab of a kind only issues commands that the kind allows
(`issued_allowed`): requests about records of its own kind, changes that the capabilities of the kind
offer, and payloads that meet their conditions.

The capability is looked at when a view is opened, and the request is built some keys later. In between
the view stands for the capability: a tab only shows views that its kind opens (`Kind.Opens`), and that
is what every step keeps.
-/

namespace RecordDesk

/-- The commands that a tab of a kind may issue. -/
inductive Kind.Allows (k : Kind) : Command → Prop where
  | rows (generation : Nat) (filter : QueryFilter) : Allows k ⟨k, .load, generation, .query k filter⟩
  | candidates (generation : Nat) (filter : QueryFilter) (relates : k = .relationships) :
      Allows k ⟨k, .candidates, generation, .query .entities filter⟩
  | get (generation : Nat) (id : String) : Allows k ⟨k, .detail, generation, .get k id⟩
  | create (generation : Nat) {p : Payload} (able : k.capabilities.create = true) (kind : p.kind = k)
      (valid : p.validate = .ok ()) : Allows k ⟨k, .save, generation, .create p⟩
  | edit (generation : Nat) (id : String) {p : Payload} (able : k.capabilities.edit = true)
      (kind : p.kind = k) (valid : p.validate = .ok ()) :
      Allows k ⟨k, .save, generation, .update k id (.full p)⟩
  | archive (generation : Nat) (id : String) (able : k.capabilities.archive = true) :
      Allows k ⟨k, .confirm, generation, .update k id (.status .archived)⟩
  | revert (generation : Nat) (id : String) (able : k.capabilities.revert = true) :
      Allows k ⟨k, .confirm, generation, .revert id⟩
  | bulk (generation : Nat) (ids : List String) {edit : BulkEdit}
      (able : k.capabilities.bulk edit.field = true) :
      Allows k ⟨k, .bulk, generation, .bulkUpdate k ids edit⟩
  | scopes (generation : Nat) (able : k.capabilities.scopes = true) :
      Allows k ⟨k, .scopes, generation, .listScopes⟩
  | actors (generation : Nat) (history : k = .history) : Allows k ⟨k, .actors, generation, .listActors⟩

/-- The views that a tab of a kind may show. -/
def Kind.Opens (k : Kind) : View → Prop
  | .add => k.capabilities.create = true
  | .edit => k.capabilities.edit = true
  | .confirm action _ back => k.capabilities.confirms action = true ∧ k.Opens back
  | .bulkPrompt field => k.capabilities.bulk field = true
  | .relate _ => k.capabilities.create = true ∧ k.capabilities.relate = true
  | _ => True

def Request.asksActors : Request → Bool
  | .listActors => true
  | _ => false

/-! ## Kinds -/

theorem Kind.opens_of_isBrowsing (k : Kind) {v : View} (h : v.isBrowsing = true) : k.Opens v := by
  cases v with
  | list | search | detail => trivial
  | add | edit | confirm | bulkPrompt | relate => exact absurd h Bool.false_ne_true

/-- The history is only looked at, and reverted. -/
theorem Kind.revert_of_allows {c : Command} (h : Kind.history.Allows c)
    (hm : c.request.isMutating = true) : ∃ id, c.request = .revert id := by
  cases h with
  | revert generation id => exact ⟨id, rfl⟩
  | create generation able => exact absurd able Bool.false_ne_true
  | edit generation id able => exact absurd able Bool.false_ne_true
  | archive generation id able => exact absurd able Bool.false_ne_true
  | @bulk generation ids edit able =>
    have hnone : Kind.history.capabilities.bulk edit.field = false := by cases edit.field <;> rfl
    exact absurd (able.symm.trans hnone) Bool.true_eq_false.mp
  | rows | candidates | get | scopes | actors => exact absurd hm Bool.false_ne_true

theorem field_of_read {field : BulkField} {prompt : String} {edit : BulkEdit}
    (h : BulkEdit.read field prompt = .ok edit) : edit.field = field := by
  unfold BulkEdit.read at h
  split at h
  · cases h
  · dsimp only at h
    split at h
    · cases h
    · cases h
      rfl

namespace Scene

variable {k : Key} {x y : Scene}

/-- Only relationships are picked. -/
theorem Picks.able (picks : x.Picks) (h : x.kind.Opens x.view) :
    x.kind.capabilities.create = true ∧ x.kind.capabilities.relate = true := by
  rcases picks with able | ⟨step, hv⟩
  · exact able
  · rw [hv] at h
    exact h

theorem kind_eq_of_relate {kind : Kind} (h : kind.capabilities.relate = true) : kind = .relationships := by
  cases kind with
  | relationships => rfl
  | entities | jobs | logs | protocols | history => exact absurd h Bool.false_ne_true

/-! ## Keys -/

theorem Turn.opens (turn : x.Turn k y) (h : x.kind.Opens x.view) :
    y.kind = x.kind ∧ y.activated = x.activated ∧ x.kind.Opens y.view := by
  refine ⟨by cases turn <;> rfl, by cases turn <;> rfl, ?_⟩
  cases turn with
  | stay => exact h
  | fill form => exact h
  | browse browsing form => exact x.kind.opens_of_isBrowsing browsing
  | prompt view able => exact able
  | ask view detail able => exact ⟨able, h⟩
  | answer view =>
    rw [view] at h
    exact h.2
  | add view able => exact able
  | edit key view detail able => exact able
  | relate view able relates => exact ⟨able, relates⟩
  | source view | target view | details view | retarget view =>
    rw [view] at h
    exact h

theorem Saves.allows {r : Request} (saves : x.Saves r) (h : x.kind.Opens x.view) :
    x.kind.Allows ⟨x.kind, .save, x.formToken, r⟩ := by
  cases saves with
  | add view form build =>
    rw [view] at h
    obtain ⟨hkind, hvalid⟩ := Kind.kind_of_buildPayload build
    exact .create _ h hkind hvalid
  | edit view form detail build =>
    rw [view] at h
    obtain ⟨hkind, hvalid⟩ := Kind.kind_of_buildPayload build
    exact .edit _ _ h hkind hvalid
  | relate view form build =>
    rw [view] at h
    obtain ⟨hkind, hvalid⟩ := kind_of_relatePayload build
    exact .create _ h.1 (hkind.trans (kind_eq_of_relate h.2).symm) hvalid

theorem Sends.allows {cs : List Command} (sends : x.Sends k cs) (h : x.kind.Opens x.view) :
    ∀ c ∈ cs, x.kind.Allows c := by
  cases sends with
  | nothing => exact List.forall_mem_nil _
  | rows => exact List.forall_mem_singleton.mpr (.rows _ _)
  | candidates picks =>
    exact List.forall_mem_singleton.mpr (.candidates _ _ (kind_eq_of_relate (picks.able h).2))
  | record => exact List.forall_mem_singleton.mpr (.get _ _)
  | scopes able => exact List.forall_mem_singleton.mpr (.scopes _ able)
  | save key saves => exact List.forall_mem_singleton.mpr (saves.allows h)
  | @confirm action target back key view =>
    rw [view] at h
    cases action with
    | archive => exact List.forall_mem_singleton.mpr (.archive _ _ h.1)
    | revert => exact List.forall_mem_singleton.mpr (.revert _ _ h.1)
  | bulk key view read =>
    rw [view] at h
    rw [← field_of_read read] at h
    exact List.forall_mem_singleton.mpr (.bulk _ _ h)

/-- No key asks who acts in the history. -/
theorem Sends.not_asksActors {cs : List Command} (sends : x.Sends k cs) :
    cs.countP (·.request.asksActors) = 0 := by
  cases sends with
  | save key saves => cases saves <;> rfl
  | @confirm action => cases action <;> rfl
  | nothing | rows | candidates | record | scopes | bulk => rfl

end Scene

namespace Tab

/-- All commands that a tab issues on some events, the oldest first. -/
def issued (t : Tab) : List TabEvent → List Command
  | [] => []
  | e :: es => (t.handle e).2 ++ (t.handle e).1.issued es

/-! ## Steps -/

/-- What one step keeps of a tab of a kind, and what holds of the commands that it issues. -/
structure Permitted (t : Tab) (r : Tab × List Command) : Prop where
  kind : r.1.kind = t.kind
  opens : t.kind.Opens r.1.view
  allows : ∀ c ∈ r.2, t.kind.Allows c
  asksOnce : r.2.countP (·.request.asksActors) + t.activated.toNat ≤ r.1.activated.toNat

theorem permitted_rowsQuery {t u : Tab} (kind : u.kind = t.kind) (opens : t.kind.Opens u.view)
    (activated : u.activated = t.activated) : t.Permitted (u, [u.rowsQuery]) := by
  refine ⟨kind, opens, List.forall_mem_singleton.mpr ?_, ?_⟩
  · rw [← kind]
    exact .rows _ _
  · rw [activated]
    exact Nat.le_of_eq (Nat.zero_add _)

theorem permitted_press {t : Tab} (h : t.kind.Opens t.view) (k : Key) : t.Permitted (t.press k) := by
  obtain ⟨⟨turn, sends⟩, -⟩ := deed_press t k
  obtain ⟨hkind, hactivated, hopens⟩ := turn.opens h
  refine ⟨hkind, hopens, sends.allows h, ?_⟩
  rw [sends.not_asksActors, Nat.zero_add]
  exact Nat.le_of_eq (congrArg Bool.toNat hactivated.symm)

theorem permitted_activate {t : Tab} (h : t.kind.Opens t.view) : t.Permitted t.activate := by
  cases ha : t.activated with
  | true =>
    rw [activate_of_activated ha]
    exact ⟨rfl, h, List.forall_mem_nil _, Nat.le_of_eq (Nat.zero_add _)⟩
  | false =>
    obtain ⟨hscene, hsent⟩ := activate_of_new ha
    have hkind : t.activate.1.kind = t.kind := congrArg Scene.kind hscene
    have hview : t.activate.1.view = t.view := congrArg Scene.view hscene
    have hactivated : t.activate.1.activated = true := congrArg Scene.activated hscene
    have hrows : t.kind.Allows t.activate.1.rowsQuery := by
      rw [← hkind]
      exact .rows _ _
    refine ⟨hkind, hview ▸ h, ?_, ?_⟩
    · rcases hsent with hsent | ⟨hk, hsent⟩
      · rw [hsent]
        exact List.forall_mem_singleton.mpr hrows
      · rw [hsent]
        exact List.forall_mem_cons.mpr ⟨hrows, List.forall_mem_singleton.mpr (.actors _ hk)⟩
    · rw [hactivated, ha]
      rcases hsent with hsent | ⟨-, hsent⟩
      · rw [hsent]
        exact Nat.zero_le 1
      · rw [hsent]
        exact Nat.le_refl 1

theorem permitted_deliver {t : Tab} (h : t.kind.Opens t.view) (d : Delivery) :
    t.Permitted (t.deliver d) := by
  have of_stage {u : Tab} (hs : u.stage = t.stage) :
      u.kind = t.kind ∧ t.kind.Opens u.view ∧ u.activated = t.activated := by
    have hview : u.view = t.view := congrArg (·.face.view) hs
    exact ⟨congrArg Stage.kind hs, hview ▸ h, congrArg Stage.activated hs⟩
  have hd := heard_deliver t d
  generalize t.deliver d = r at hd
  cases hd with
  | quiet hs =>
    obtain ⟨hkind, hopens, hactivated⟩ := of_stage hs
    refine ⟨hkind, hopens, List.forall_mem_nil _, ?_⟩
    rw [hactivated]
    exact Nat.le_of_eq (Nat.zero_add _)
  | reload hs =>
    obtain ⟨hkind, hopens, hactivated⟩ := of_stage hs
    exact permitted_rowsQuery hkind hopens hactivated
  | saved hs =>
    obtain ⟨hkind, -, hactivated⟩ := of_stage hs
    exact permitted_rowsQuery hkind trivial hactivated

theorem permitted_handle {t : Tab} (h : t.kind.Opens t.view) (e : TabEvent) : t.Permitted (t.handle e) := by
  cases e with
  | deliver d => exact permitted_deliver h d
  | input i =>
    cases i with
    | activate => exact permitted_activate h
    | reload => exact permitted_rowsQuery rfl h rfl
    | viewport height => exact ⟨rfl, h, List.forall_mem_nil _, Nat.le_of_eq (Nat.zero_add _)⟩
    | press k => exact permitted_press h k

/-! ## Runs -/

/-- A tab only ever shows views that its kind opens. -/
theorem opens_after (kind : Kind) (es : List TabEvent) : (after kind es).kind.Opens (after kind es).view := by
  refine after_induction (motive := fun t => t.kind.Opens t.view) trivial (fun t e h => ?_) es
  rw [kind_handle]
  exact (permitted_handle h e).opens

theorem permitted_issued {t : Tab} (h : t.kind.Opens t.view) (es : List TabEvent) :
    (∀ c ∈ t.issued es, t.kind.Allows c) ∧
      (t.issued es).countP (·.request.asksActors) + t.activated.toNat ≤ 1 := by
  induction es generalizing t with
  | nil =>
    refine ⟨List.forall_mem_nil _, ?_⟩
    show 0 + t.activated.toNat ≤ 1
    rw [Nat.zero_add]
    exact Bool.toNat_le _
  | cons e es ih =>
    obtain ⟨hkind, hopens, hallows, honce⟩ := permitted_handle h e
    obtain ⟨hallows', honce'⟩ := ih (t := (t.handle e).1) (hkind.symm ▸ hopens)
    refine ⟨List.forall_mem_append.mpr ⟨hallows, ?_⟩, ?_⟩
    · rw [← hkind]
      exact hallows'
    · show ((t.handle e).2 ++ (t.handle e).1.issued es).countP _ + _ ≤ 1
      rw [List.countP_append]
      omega

/-- Whatever keys and deliveries a tab of a kind gets, it only issues commands that the kind allows, and
asks who acts in the history at most once. In the history it changes nothing but by reverting. -/
theorem issued_allowed (kind : Kind) (es : List TabEvent) :
    (∀ c ∈ (new kind).issued es, kind.Allows c) ∧
      ((new kind).issued es).countP (·.request.asksActors) ≤ 1 ∧
      (kind = .history → ∀ c ∈ (new kind).issued es, c.request.isMutating = true →
        ∃ id, c.request = .revert id) := by
  have hlist : (new kind).kind.Opens (new kind).view := trivial
  obtain ⟨hallows, honce⟩ := permitted_issued hlist es
  refine ⟨hallows, honce, ?_⟩
  rintro rfl c hc hm
  exact Kind.revert_of_allows (hallows c hc) hm

/-- A change is looked up in the history and reverted. -/
theorem issued_reverting :
    let change := Record.named .history "h-1" "renamed"
    let cs := (new .history).issued [.input .activate,
      .deliver ⟨.history, .load, 1, .ok (.records [change])⟩, .input (.press .enter),
      .input (.press (.char 'r')), .input (.press (.char 'y'))]
    cs.map (·.request.describe) =
        ["query history \"\"", "list actors", "get history/h-1", "revert history/h-1"] ∧
      cs.countP (·.request.asksActors) ≤ 1 ∧ ∀ c ∈ cs, Kind.history.Allows c := by
  intro change cs
  obtain ⟨hallows, honce, -⟩ := issued_allowed .history [.input .activate,
    .deliver ⟨.history, .load, 1, .ok (.records [change])⟩, .input (.press .enter),
    .input (.press (.char 'r')), .input (.press (.char 'y'))]
  exact ⟨rfl, honce, hallows⟩

end Tab

end RecordDesk
