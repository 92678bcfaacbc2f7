import RecordDesk.Label.Entry
import RecordDesk.Proofs.Label.Normal

/-!
Typing labels. An entry takes a text character by character and decides at each one whether a label ends there; what it
comes to in the end is what the text says when it is cut at its spaces and commas at once (`typing_splits`). What is
staged on the way is always the piece that the next character belongs to, and that is what the induction is on
(`typed_eq`).
-/

namespace RecordDesk

namespace LabelEntry

/-- The entry after some keys. Those that are no keys for sets are passed over. -/
def pressAll (e : LabelEntry) (ks : List Key) : LabelEntry := ks.foldl (fun e k => (e.press k).getD e) e

/-- The entry after a text, typed character by character. -/
def typed (e : LabelEntry) (cs : List Char) : LabelEntry := e.pressAll (cs.map .char)

/-- The characters that end a label. -/
def isSeparator (c : Char) : Bool := c == ' ' || c == ','

variable {e : LabelEntry} {c : Char}

/-! ## One key -/

theorem press_of_isSeparator (h : isSeparator c = true) : e.press (.char c) = some e.commit := by
  simp only [isSeparator, Bool.or_eq_true, beq_iff_eq] at h
  rcases h with rfl | rfl
  · rfl
  · rfl

theorem press_of_not_isSeparator (h : isSeparator c = false) (hc : Text.isControl c = false) :
    e.press (.char c) = some { e with staging := e.staging.push c } := by
  simp only [isSeparator, Bool.or_eq_false_iff, beq_eq_false_iff_ne] at h
  simp [press, Key.printable?, hc, h.1, h.2]

theorem typed_cons (e : LabelEntry) (c : Char) (cs : List Char) :
    e.typed (c :: cs) = ((e.press (.char c)).getD e).typed cs := rfl

/-! ## Committing -/

theorem labelsOf_staging (e : LabelEntry) : e.kind.labelsOf [e.staging.toList] = e.pending?.toList := by
  unfold LabelKind.labelsOf pending? LabelKind.normal
  rw [List.map_singleton, List.filter_cons, List.filter_nil]
  dsimp only
  cases (String.ofList (e.kind.normalList e.staging.toList)).isEmpty with
  | true => rfl
  | false => rfl

theorem resolved_eq (e : LabelEntry) :
    e.resolved = e.committed.insertAll (e.kind.labelsOf [e.staging.toList]) := by
  rw [labelsOf_staging]
  unfold resolved
  cases e.pending? with
  | none => rfl
  | some v => rfl

theorem commitAdds_iff (e : LabelEntry) : e.commitAdds = true ↔ e.committed.size < e.commit.committed.size := by
  unfold commitAdds commit resolved
  cases e.pending? with
  | none => exact iff_of_false Bool.false_ne_true (Nat.lt_irrefl _)
  | some v =>
    dsimp only
    rw [NameSet.size_insert]
    cases e.committed.contains v with
    | true => exact iff_of_false Bool.false_ne_true (Nat.lt_irrefl _)
    | false => exact iff_of_true rfl (Nat.lt_succ_self _)

/-! ## Whole texts -/

/-- What is staged is the piece that the text goes on with, and the labels before it are committed. -/
theorem typed_eq (k : LabelKind) (w cs : List Char) (committed : NameSet)
    (hw : ∀ c ∈ w, isSeparator c = false) (hcs : ∀ c ∈ cs, Text.isControl c = false) :
    ∃ front last, Text.pieces isSeparator (w ++ cs) = front ++ [last] ∧
      typed ⟨k, committed, .ofList w⟩ cs = ⟨k, committed.insertAll (k.labelsOf front), .ofList last⟩ := by
  induction cs generalizing w committed with
  | nil =>
    refine ⟨[], w, ?_, rfl⟩
    rw [List.append_nil, Text.pieces_of_not hw, List.nil_append]
  | cons c cs ih =>
    obtain ⟨hc, hcs⟩ := List.forall_mem_cons.1 hcs
    rw [typed_cons]
    cases hsep : isSeparator c with
    | true =>
      obtain ⟨front, last, hpieces, htyped⟩ := ih [] (committed.insertAll (k.labelsOf [w])) nofun hcs
      rw [List.nil_append] at hpieces
      have hcommit : commit ⟨k, committed, .ofList w⟩ = ⟨k, committed.insertAll (k.labelsOf [w]), ""⟩ := by
        unfold commit
        rw [resolved_eq, String.toList_ofList]
      refine ⟨w :: front, last, ?_, ?_⟩
      · rw [Text.pieces_append hw hsep, hpieces, List.cons_append]
      · have hlabels : k.labelsOf (w :: front) = k.labelsOf [w] ++ k.labelsOf front := k.labelsOf_append [w] front
        rw [press_of_isSeparator hsep, Option.getD_some, hcommit, hlabels, NameSet.insertAll_append]
        exact htyped
    | false =>
      have hpush : (String.ofList w).push c = .ofList (w ++ [c]) := by
        rw [← String.toList_inj, String.toList_push, String.toList_ofList, String.toList_ofList]
      have hw' : ∀ d ∈ w ++ [c], isSeparator d = false := by
        simpa [or_imp, forall_and, hsep] using hw
      obtain ⟨front, last, hpieces, htyped⟩ := ih (w ++ [c]) committed hw' hcs
      rw [List.append_assoc, List.singleton_append] at hpieces
      rw [press_of_not_isSeparator hsep hc, Option.getD_some]
      dsimp only
      rw [hpush]
      exact ⟨front, last, hpieces, htyped⟩

/-- Typing a text adds to the committed labels those that it stands for when it is cut at its spaces and commas. The
last piece is staged as it was typed; committing adds its label, too, and says whether that is a new one. -/
theorem typing_splits (e : LabelEntry) (s : String) (he : e.staging = "")
    (hs : ∀ c ∈ s.toList, Text.isControl c = false) :
    ∃ front last, Text.pieces isSeparator s.toList = front ++ [last] ∧
      (e.typed s.toList).resolved = e.committed.insertAll (e.kind.labelsOf (front ++ [last])) ∧
      (e.typed s.toList).committed = e.committed.insertAll (e.kind.labelsOf front) ∧
      (e.typed s.toList).staging = .ofList last ∧
      (e.typed s.toList).commit.committed = (e.typed s.toList).resolved ∧
      ((e.typed s.toList).commitAdds = true ↔
        (e.typed s.toList).committed.size < (e.typed s.toList).commit.committed.size) := by
  obtain ⟨k, committed, staging⟩ := e
  obtain rfl : staging = "" := he
  obtain ⟨front, last, hpieces, htyped⟩ := typed_eq k [] s.toList committed nofun hs
  have htyped : typed ⟨k, committed, ""⟩ s.toList = ⟨k, committed.insertAll (k.labelsOf front), .ofList last⟩ := htyped
  refine ⟨front, last, hpieces, ?_, ?_, ?_, rfl, commitAdds_iff _⟩
  · rw [htyped, resolved_eq, String.toList_ofList, LabelKind.labelsOf_append, NameSet.insertAll_append]
  · rw [htyped]
  · rw [htyped]

/-- A scope that is there already, two words with a wide space between them, and a scope that is still being typed. -/
theorem typing_splits_scopes :
    (∀ c ∈ "#Work, HOME\u3000two ##new".toList, Text.isControl c = false) ∧
      ∃ u, u = typed ⟨.scope, .ofList ["work"], ""⟩ "#Work, HOME\u3000two ##new".toList ∧
        u.committed = .ofList ["work", "home\u3000two"] ∧ u.staging = "##new" ∧
        u.resolved = .ofList ["work", "home\u3000two", "new"] ∧ u.commit.committed = u.resolved ∧
        u.commitAdds = true := by
  have hs : ∀ c ∈ "#Work, HOME\u3000two ##new".toList, Text.isControl c = false := by
    have hall : ("#Work, HOME\u3000two ##new".toList.all fun c => !Text.isControl c) = true := by decide
    simpa using hall
  obtain ⟨front, last, hpieces, hresolved, hcommitted, hstaging, hcommit, hadds⟩ :=
    typing_splits ⟨.scope, .ofList ["work"], ""⟩ "#Work, HOME\u3000two ##new" rfl hs
  have hsplit : front ++ [last] = ["#Work".toList, [], "HOME\u3000two".toList] ++ ["##new".toList] := by
    rw [← hpieces]
    decide
  obtain ⟨rfl, hlast⟩ := List.append_inj' hsplit rfl
  obtain rfl := List.singleton_inj.1 hlast
  refine ⟨hs, _, rfl, ?_, ?_, ?_, hcommit, hadds.2 ?_⟩
  · rw [hcommitted]
    decide +kernel
  · rw [hstaging, String.ofList_toList]
  · rw [hresolved]
    decide +kernel
  · rw [hcommit, hresolved, hcommitted]
    decide +kernel

end LabelEntry

end RecordDesk
