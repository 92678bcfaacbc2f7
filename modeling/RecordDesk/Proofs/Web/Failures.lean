import Mathlib.Data.List.DropRight
import RecordDesk.Proofs.Metadata.Lists
import RecordDesk.Web.Client

/-!
Clients whose address takes segments: there is one for every trimmed text that reads as an address (`new_of_read`), it
finds a URL for any segments, and so none of its calls fails for the want of a path (`hasPaths_of_segments`).
-/

namespace RecordDesk.Web

theorem trimSlashes_trimSlashes (s : String) : trimSlashes (trimSlashes s) = trimSlashes s := by
  unfold trimSlashes
  rw [String.toList_ofList]
  exact congrArg String.ofList (List.rdropWhile_idempotent _ _)

namespace Client

theorem new_of_read {s : String} {key : Option String} {timeoutMs pageSize : Nat} {base : Url}
    (htrimmed : trimSlashes s = s) (hread : Url.read s = .ok base) (hsize : 0 < pageSize) :
    Client.new s key timeoutMs pageSize = .ok ⟨s, base, usableKey key, timeoutMs, pageSize, hread, hsize⟩ := by
  have hne : s.isEmpty = false := by
    refine Bool.eq_false_iff.2 fun hempty => ?_
    rw [String.isEmpty_iff.1 hempty] at hread
    cases hread
  unfold Client.new
  generalize htext : trimSlashes s = text
  obtain rfl : text = s := htext.symm.trans htrimmed
  dsimp only
  rw [if_neg (Bool.eq_false_iff.1 hne)]
  split
  · next e herror =>
    rw [hread] at herror
    cases herror
  · next base' hbase =>
    obtain rfl := Except.ok.inj (hread.symm.trans hbase)
    rw [dif_pos hsize]

theorem exists_segmentUrl {c : Client} {parts : List (List Char)} (h : c.base.path = .segments parts)
    (segments : List String) : ∃ u, c.segmentUrl segments = .ok u := by
  unfold segmentUrl Url.extend?
  rw [h]
  exact ⟨_, rfl⟩

end Client

/-! ## Failures for the want of a path -/

/-- The address of the service takes no segments. -/
def ClientError.isNoPath : ClientError → Bool
  | .noPath _ => true
  | _ => false

/-- However it ends, it does not fail for the want of a path. -/
def HasPath {α : Type} (x : Except ClientError α) : Prop := ∀ e, x = .error e → e.isNoPath = false

/-- Neither the answer that is there nor what a reply means is a failure for the want of a path. -/
def Exchange.FindsPath {α : Type} : Exchange α → Prop
  | .done answer => HasPath answer
  | .send _ read => ∀ body, HasPath (read body)

theorem hasPath_ok {α : Type} (a : α) : HasPath (.ok a) := nofun

theorem hasPath_error {α : Type} {e : ClientError} (h : e.isNoPath = false) :
    HasPath (.error e : Except ClientError α) := by
  intro e' he
  cases he
  exact h

theorem HasPath.bind {α β : Type} {x : Except ClientError α} {f : α → Except ClientError β} (hx : HasPath x)
    (hf : ∀ a, HasPath (f a)) : HasPath (x >>= f) := by
  intro e he
  rcases Metadata.cases_of_bind_error he with hx' | ⟨a, -, ha⟩
  · exact hx e hx'
  · exact hf a e ha

theorem HasPath.mapM {α β : Type} {f : α → Except ClientError β} (hf : ∀ a, HasPath (f a)) (xs : List α) :
    HasPath (xs.mapM f) := by
  induction xs with
  | nil => exact hasPath_ok []
  | cons x xs ih =>
    rw [List.mapM_cons]
    exact (hf x).bind fun y => ih.bind fun ys => hasPath_ok (y :: ys)

namespace Client

variable {c : Client}

/-! ### What replies mean -/

theorem hasPath_decode {α : Type} (what : String) (document : Json → Option α) (body : String) :
    HasPath (decode what document body) := by
  unfold decode
  split
  · exact hasPath_ok _
  · exact hasPath_error rfl

theorem hasPath_recordOf (kind : Kind) (d : RecordDocument) : HasPath (recordOf kind d) := by
  unfold recordOf
  cases d.toRecord kind with
  | error e => exact hasPath_error rfl
  | ok r => exact hasPath_ok r

theorem hasPath_readRecord (kind : Kind) (what body : String) : HasPath (readRecord kind what body) :=
  (hasPath_decode _ _ _).bind (hasPath_recordOf kind)

theorem hasPath_readRecords (kind : Kind) (body : String) : HasPath (readRecords kind body) :=
  (hasPath_decode _ _ _).bind (HasPath.mapM (hasPath_recordOf kind))

theorem hasPath_readNames (what body : String) : HasPath (readNames what body) :=
  (hasPath_decode _ _ _).bind fun _ => hasPath_ok _

theorem hasPath_errorOf {α : Type} (status : Nat) (body : String) :
    HasPath (.error (errorOf status body) : Except ClientError α) := by
  refine hasPath_error ?_
  unfold errorOf
  split
  · rfl
  · split
    · rfl
    · split <;> rfl

/-! ### Calls -/

theorem findsPath_send {α : Type} {read : String → Except ClientError α} (h : ∀ body, HasPath (read body))
    (method : Method) (url : Option Url) (body : Option Json) : (c.send method url body read).FindsPath := by
  unfold send
  split
  · exact h
  · exact hasPath_error rfl

theorem findsPath_updateBody {body : UpdateBody} {e : ClientError} (h : updateBody body = .error e) :
    e.isNoPath = false := by
  unfold updateBody at h
  split at h
  · split at h <;> cases h
    rfl
  · cases h

/-- Every call of the client finds the path that it needs, whatever it is about. -/
structure HasPaths (c : Client) : Prop where
  segments : ∀ segments, ∃ u, c.segmentUrl segments = .ok u
  ping : c.ping.FindsPath
  query : ∀ kind filter, (c.query kind filter).FindsPath
  get : ∀ kind id, (c.get kind id).FindsPath
  create : ∀ p, (c.create p).FindsPath
  update : ∀ kind id body, (c.update kind id body).FindsPath
  bulkUpdate : ∀ kind ids edit, (c.bulkUpdate kind ids edit).FindsPath
  revert : ∀ id, (c.revert id).FindsPath
  listScopes : c.listScopes.FindsPath
  listActors : c.listActors.FindsPath

theorem hasPaths_of_segments {parts : List (List Char)} (h : c.base.path = .segments parts) : c.HasPaths where
  segments := exists_segmentUrl h
  ping := findsPath_send (fun _ => hasPath_ok ()) _ _ _
  query kind filter := by
    unfold query
    split
    · exact hasPath_error rfl
    · exact findsPath_send (hasPath_readRecords kind) _ _ _
  get kind id := by
    obtain ⟨u, hu⟩ := exists_segmentUrl h [kind.name, id]
    unfold get
    rw [hu]
    exact findsPath_send (hasPath_readRecord kind _) _ _ _
  create p := by
    unfold create
    split
    · exact hasPath_error rfl
    · exact findsPath_send (hasPath_readRecord p.kind _) _ _ _
  update kind id body := by
    obtain ⟨u, hu⟩ := exists_segmentUrl h [kind.name, id]
    unfold update
    split
    · next e hbody => exact hasPath_error (findsPath_updateBody hbody)
    · rw [hu]
      exact findsPath_send (hasPath_readRecord kind _) _ _ _
  bulkUpdate kind ids edit := by
    unfold bulkUpdate
    split
    · exact hasPath_ok 0
    · exact findsPath_send (hasPath_decode _ _) _ _ _
  revert id := by
    obtain ⟨u, hu⟩ := exists_segmentUrl h ["history", id, "revert"]
    unfold revert
    rw [hu]
    exact findsPath_send (fun _ => hasPath_ok ()) _ _ _
  listScopes := findsPath_send (hasPath_readNames _) _ _ _
  listActors := findsPath_send (hasPath_readNames _) _ _ _

theorem hasPath_run {σ α : Type} {x : Exchange α} (h : x.FindsPath) (net : Network σ) (s : σ) :
    HasPath (c.run net x s).1 := by
  unfold run
  cases x with
  | done a => exact h
  | send r read =>
    dsimp only
    unfold readReply
    split
    · exact hasPath_error rfl
    · exact hasPath_error rfl
    · split
      · exact h _
      · exact hasPath_errorOf _ _

end Client

end RecordDesk.Web
