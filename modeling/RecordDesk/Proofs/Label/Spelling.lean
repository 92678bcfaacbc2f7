import RecordDesk.Proofs.Label.Prompt
import RecordDesk.Proofs.Label.Typing

/-!
The spellings in which labels are stored. Whatever is typed into an entry, and whatever a bulk prompt names, is stored
in the normal form of some text (`origin_pressAll`, `origin_read`), and so without white space at its ends. Tags are
stored in one spelling each. Scopes are, too, but for those that begin with a hash mark, which can only come from a
text that hides one (`stored_spellings`).
-/

namespace RecordDesk

namespace LabelKind

/-- A label is the normal form of some text, and not empty. -/
structure Origin (k : LabelKind) (v : String) : Prop where
  ne_empty : v ≠ ""
  text : ∃ s, v = k.normal s

/-- Labels that are stored side by side. None is empty, has white space at its ends or stands there twice. A label is
in normal form, and no other one has the same normal form, unless a scope begins with a hash mark. -/
structure Stores (k : LabelKind) (vs : List String) : Prop where
  ne_empty : ∀ v ∈ vs, v ≠ ""
  trimmed : ∀ v ∈ vs, Text.trim v = v
  nodup : vs.Nodup
  normal_iff : ∀ v ∈ vs, k.normal v = v ↔ ¬k.LeavesHash v
  apart : ∀ v ∈ vs, ∀ w ∈ vs, k.normal v = k.normal w → v = w ∨ k.LeavesHash v ∨ k.LeavesHash w

variable {k : LabelKind}

theorem stores_of_origin {vs : List String} (h : ∀ v ∈ vs, k.Origin v) (hnodup : vs.Nodup) : k.Stores vs := by
  have hnormal (v : String) (hv : v ∈ vs) : k.normal v = v ↔ ¬k.LeavesHash v := by
    obtain ⟨s, rfl⟩ := (h v hv).text
    exact normal_normal_iff k s
  refine ⟨fun v hv => (h v hv).ne_empty, fun v hv => ?_, hnodup, hnormal, fun v hv w hw heq => ?_⟩
  · obtain ⟨s, rfl⟩ := (h v hv).text
    exact trim_normal k s
  · by_cases hleaves : k.LeavesHash v
    · exact .inr (.inl hleaves)
    · by_cases hleaves' : k.LeavesHash w
      · exact .inr (.inr hleaves')
      · rw [(hnormal v hv).2 hleaves, (hnormal w hw).2 hleaves'] at heq
        exact .inl heq

end LabelKind

/-! ## Typing -/

namespace LabelEntry

variable {e e' : LabelEntry} {v : String}

theorem origin_of_pending (h : e.pending? = some v) : e.kind.Origin v := by
  unfold pending? at h
  dsimp only at h
  split at h
  · cases h
  · next hempty =>
    cases h
    exact ⟨fun heq => hempty (String.isEmpty_iff.2 heq), e.staging, rfl⟩

theorem mem_commit (h : v ∈ e.commit.committed) : v ∈ e.committed ∨ e.pending? = some v := by
  unfold commit resolved at h
  cases hpending : e.pending? with
  | none =>
    rw [hpending] at h
    exact .inl h
  | some w =>
    rw [hpending] at h
    exact (NameSet.mem_insert.1 h).symm.imp id fun heq => congrArg some heq.symm

/-- A key commits nothing but what is staged. -/
theorem mem_press {k : Key} (h : e.press k = some e') :
    e'.kind = e.kind ∧ ∀ v ∈ e'.committed, v ∈ e.committed ∨ e.pending? = some v := by
  unfold press at h
  split at h
  · cases h
    exact ⟨rfl, fun v => mem_commit⟩
  · cases h
    exact ⟨rfl, fun v => mem_commit⟩
  · cases h
    exact ⟨rfl, fun v => mem_commit⟩
  · split at h
    · cases h
      exact ⟨rfl, fun v hv => .inl ((List.dropLast_sublist _).mem hv)⟩
    · cases h
      exact ⟨rfl, fun v => .inl⟩
  · cases h
    exact ⟨rfl, fun v => .inl⟩
  · obtain ⟨c, -, rfl⟩ := Option.map_eq_some_iff.1 h
    exact ⟨rfl, fun v => .inl⟩

theorem origin_pressAll (ks : List Key) (h : ∀ v ∈ e.committed, e.kind.Origin v) :
    ∀ v ∈ (e.pressAll ks).committed, e.kind.Origin v := by
  induction ks generalizing e with
  | nil => exact h
  | cons k ks ih =>
    have hcons : e.pressAll (k :: ks) = ((e.press k).getD e).pressAll ks := rfl
    rw [hcons]
    cases hpress : e.press k with
    | none => exact ih h
    | some e' =>
      obtain ⟨hkind, hmem⟩ := mem_press hpress
      rw [Option.getD_some, ← hkind]
      refine ih fun v hv => ?_
      rw [hkind]
      exact (hmem v hv).elim (h v) origin_of_pending

end LabelEntry

/-! ## Bulk prompts -/

theorem BulkEdit.origin_read {field : BulkField} {input : String} {e : BulkEdit} (h : read field input = .ok e) :
    (∀ v ∈ e.values, field.labelKind.Origin v) ∧ e.values.Nodup := by
  obtain ⟨rest, -, hvalues, -⟩ := names_of_read h
  have hfirst := firstOccurrences_valuesOf field.labelKind rest
  rw [← hvalues] at hfirst
  refine ⟨fun v hv => ?_, hfirst.nodup⟩
  obtain ⟨hne, item, -, hv⟩ := LabelKind.mem_labelsOf.1 ((hfirst.mem_iff v).1 hv)
  exact ⟨hne, _, hv⟩

/-- A normal form is trimmed, and is its own normal form unless it is that of a scope and begins with a hash mark; that
happens when the text has a hash mark behind others and white space, and only then. So the labels that typing commits to
a blank entry, and those that a bulk prompt names, are in normal form and in one spelling each, but for such scopes. -/
theorem stored_spellings (k : LabelKind) :
    (∀ s, Text.trim (k.normal s) = k.normal s ∧
      (k.normal (k.normal s) = k.normal s ↔ ¬k.LeavesHash (k.normal s)) ∧
      (k.LeavesHash (k.normal s) ↔ k = .scope ∧ LabelKind.HidesHash s)) ∧
    (∀ ks, k.Stores ((LabelEntry.blank k).pressAll ks).committed.toList) ∧
    ∀ field input e, field.labelKind = k → BulkEdit.read field input = .ok e → k.Stores e.values := by
  refine ⟨fun s => ?_, fun ks => ?_, ?_⟩
  · exact ⟨LabelKind.trim_normal k s, LabelKind.normal_normal_iff k s, LabelKind.leavesHash_normal_iff k s⟩
  · have hblank : ∀ v ∈ (LabelEntry.blank k).committed, k.Origin v := fun v hv => absurd hv NameSet.not_mem_empty
    exact LabelKind.stores_of_origin (LabelEntry.origin_pressAll ks hblank) (NameSet.nodup _)
  · rintro field input e rfl hread
    obtain ⟨horigin, hnodup⟩ := BulkEdit.origin_read hread
    exact LabelKind.stores_of_origin horigin hnodup

/-- Two spellings of one scope from one prompt. -/
theorem read_hiddenHash :
    BulkEdit.read .scopes "+# #work,work" = .ok ⟨.add, .scopes, ["#work", "work"]⟩ := by
  have hnames : BulkEdit.Names "+# #work,work" .add "# #work,work".toList := ⟨"+", by decide, by decide +kernel⟩
  have hvalues : BulkEdit.valuesOf BulkField.scopes.labelKind "# #work,work".toList = ["#work", "work"] := by
    decide +kernel
  rw [BulkEdit.read_of_names hnames, hvalues]
  rfl

theorem stored_spellings_hiddenHash :
    BulkField.scopes.labelKind = .scope ∧
      BulkEdit.read .scopes "+# #work,work" = .ok ⟨.add, .scopes, ["#work", "work"]⟩ ∧
      LabelKind.scope.Stores ["#work", "work"] ∧ "work" ∈ ["#work", "work"] ∧
      LabelKind.scope.normal "work" = "work" ∧ LabelKind.HidesHash "# #work" ∧
      LabelKind.scope.LeavesHash (LabelKind.scope.normal "# #work") := by
  obtain ⟨hnormal, -, hread⟩ := stored_spellings .scope
  have hstores := hread .scopes "+# #work,work" _ rfl read_hiddenHash
  have hmem : "work" ∈ ["#work", "work"] := by decide
  have hhides : LabelKind.HidesHash "# #work" := by decide +kernel
  exact ⟨rfl, read_hiddenHash, hstores, hmem, (hstores.normal_iff "work" hmem).2 (by decide), hhides,
    (hnormal "# #work").2.2.2 ⟨rfl, hhides⟩⟩

/-- A hash mark behind white space comes to stand in front, where a second look would take it away; and the scope is
stored beside its other spelling, from a prompt as well as by typing a wide space. -/
theorem hiddenHash_stays :
    LabelKind.scope.normal (LabelKind.scope.normal "# #work") ≠ LabelKind.scope.normal "# #work" ∧
      (LabelKind.scope.normal "# #work").toList.head? = some '#' ∧
      BulkEdit.read .scopes "+# #work,work" = .ok ⟨.add, .scopes, ["#work", "work"]⟩ ∧
      LabelKind.scope.normal "#work" = LabelKind.scope.normal "work" ∧
      ((LabelEntry.blank .scope).typed "#\u3000#work work ".toList).committed.toList = ["#work", "work"] :=
  ⟨by decide +kernel, by decide +kernel, read_hiddenHash, by decide +kernel, by decide +kernel⟩

end RecordDesk
