import RecordDesk.Label.Normal
import RecordDesk.Proofs.Text.Lowering

/-!
What the normal form of a label is normal in. It has no white space at its ends and no capital letters; and since
nothing else is done to a tag, a normal form of a tag has itself as its normal form. A scope also loses the hash marks
in front, but what stands behind them is only trimmed: in `# #work` the second mark comes to stand in front too late.
That is the one way in which a normal form is none (`normal_normal_iff`, `leavesHash_normal_iff`).
-/

namespace RecordDesk.LabelKind

/-- A scope that begins with a hash mark. -/
def LeavesHash (k : LabelKind) (v : String) : Prop := k = .scope ∧ v.toList.head? = some '#'

/-- Behind the hash marks in front, and the white space behind these, stands another hash mark. -/
def HidesHash (s : String) : Prop :=
  (Text.trimmedStart ((Text.trimmed s.toList).dropWhile (· == '#'))).head? = some '#'

instance (k : LabelKind) (v : String) : Decidable (k.LeavesHash v) := inferInstanceAs (Decidable (_ ∧ _))

instance (s : String) : Decidable (HidesHash s) := inferInstanceAs (Decidable (_ = _))

variable {k : LabelKind} {cs : List Char}

theorem isPlain_of_hash (c : Char) (h : (c == '#') = true) : Text.isPlain c = true :=
  Bool.or_eq_true_iff.2 (.inr h)

theorem trimmed_lowered (h : Text.trimmed cs = cs) : Text.trimmed (Text.lowered cs) = Text.lowered cs := by
  by_cases hne : cs = []
  · rw [hne, Text.lowered_nil, Text.trimmed_nil]
  · exact (Text.isTight_of_trimmed h hne).lowered.trimmed_eq

theorem trimmed_normalList (k : LabelKind) (cs : List Char) :
    Text.trimmed (k.normalList cs) = k.normalList cs := by
  cases k with
  | tag => exact trimmed_lowered (Text.trimmed_trimmed cs)
  | scope => exact Text.trimmed_trimmed _

theorem lowered_normalList (k : LabelKind) (cs : List Char) :
    Text.lowered (k.normalList cs) = k.normalList cs := by
  cases k with
  | tag => exact Text.lowered_lowered _
  | scope =>
    have hsubset : scope.normalList cs ⊆ Text.lowered (Text.trimmed cs) := fun c hc =>
      (List.dropWhile_sublist _).mem (Text.mem_of_mem_trimmed hc)
    exact Text.lowered_of_subset hsubset

/-- A text in lower case without white space at its ends is its own normal form, unless it is a scope that begins
with a hash mark. -/
theorem normalList_of_settled (htrim : Text.trimmed cs = cs) (hlower : Text.lowered cs = cs)
    (hhash : k = .scope → cs.head? ≠ some '#') : k.normalList cs = cs := by
  cases k with
  | tag => rw [normalList, htrim, hlower]
  | scope =>
    have hdrop : cs.dropWhile (· == '#') = cs := by
      cases cs with
      | nil => rfl
      | cons c cs =>
        refine List.dropWhile_cons_of_neg fun hc => hhash rfl ?_
        rw [List.head?_cons, beq_iff_eq.1 hc]
    rw [normalList, htrim, hlower, hdrop, htrim]

theorem length_normalList_lt (h : cs.head? = some '#') (htrim : Text.trimmed cs = cs)
    (hlower : Text.lowered cs = cs) : (scope.normalList cs).length < cs.length := by
  cases cs with
  | nil => cases h
  | cons c cs =>
    obtain rfl : c = '#' := Option.some.inj h
    rw [normalList, htrim, hlower, List.dropWhile_cons_of_pos (by rfl), List.length_cons]
    have hdrop := (List.dropWhile_sublist (l := cs) (· == '#')).length_le
    have hstart := (List.dropWhile_sublist (l := cs.dropWhile (· == '#')) Text.isBlank).length_le
    have hend := Text.length_trimmedEnd_le (Text.trimmedStart (cs.dropWhile (· == '#')))
    unfold Text.trimmed
    unfold Text.trimmedStart at hend ⊢
    omega

/-- The hash mark in front of a normal form was hidden. -/
theorem head?_normalList_scope (cs : List Char) :
    (scope.normalList cs).head? = some '#' ↔
      (Text.trimmedStart ((Text.trimmed cs).dropWhile (· == '#'))).head? = some '#' := by
  obtain ⟨before, hdrop⟩ := Text.dropWhile_lowerFrom isPlain_of_hash [] (Text.trimmed cs)
  obtain ⟨before', hstart⟩ :=
    Text.dropWhile_lowerFrom (fun _ => Text.isPlain_of_isBlank) before ((Text.trimmed cs).dropWhile (· == '#'))
  have hform : Text.trimmedStart ((Text.lowered (Text.trimmed cs)).dropWhile (· == '#')) =
      Text.lowerFrom before' (Text.trimmedStart ((Text.trimmed cs).dropWhile (· == '#'))) := by
    unfold Text.lowered Text.trimmedStart
    rw [hdrop, hstart]
  have hend := Text.head?_trimmedEnd (c := '#') (by decide)
    (Text.trimmedStart ((Text.lowered (Text.trimmed cs)).dropWhile (· == '#')))
  rw [hform, Text.head?_lowerFrom (by decide), ← hform] at hend
  exact hend

/-! ## Labels as texts -/

theorem toList_normal (k : LabelKind) (s : String) : (k.normal s).toList = k.normalList s.toList :=
  String.toList_ofList

theorem normal_empty (k : LabelKind) : k.normal "" = "" := by cases k <;> decide +kernel

theorem trim_normal (k : LabelKind) (s : String) : Text.trim (k.normal s) = k.normal s := by
  unfold Text.trim
  rw [toList_normal, trimmed_normalList]
  rfl

/-- A normal form has itself as its normal form, unless it is that of a scope and begins with a hash mark. -/
theorem normal_normal_iff (k : LabelKind) (s : String) :
    k.normal (k.normal s) = k.normal s ↔ ¬k.LeavesHash (k.normal s) := by
  have htrim := trimmed_normalList k s.toList
  have hlower := lowered_normalList k s.toList
  rw [← String.toList_inj, toList_normal k (k.normal s), toList_normal]
  unfold LeavesHash
  rw [toList_normal]
  constructor
  · rintro h ⟨rfl, hhash⟩
    have hlt := length_normalList_lt hhash htrim hlower
    rw [h] at hlt
    exact Nat.lt_irrefl _ hlt
  · exact fun h => normalList_of_settled htrim hlower fun hk hhash => h ⟨hk, hhash⟩

theorem leavesHash_normal_iff (k : LabelKind) (s : String) :
    k.LeavesHash (k.normal s) ↔ k = .scope ∧ HidesHash s := by
  unfold LeavesHash
  refine and_congr_right ?_
  rintro rfl
  rw [toList_normal]
  exact head?_normalList_scope s.toList

/-! ## The labels in a list -/

/-- The labels that some texts stand for: their normal forms, without empty ones. -/
def labelsOf (k : LabelKind) (ps : List (List Char)) : List String :=
  (ps.map fun p => String.ofList (k.normalList p)).filter (!·.isEmpty)

theorem mem_labelsOf {ps : List (List Char)} {v : String} :
    v ∈ k.labelsOf ps ↔ v ≠ "" ∧ ∃ p ∈ ps, v = k.normal (.ofList p) := by
  simp only [labelsOf, List.mem_filter, List.mem_map, normal, String.toList_ofList, Bool.not_eq_true',
    String.isEmpty_eq_false_iff]
  constructor
  · rintro ⟨⟨p, hp, rfl⟩, hne⟩
    exact ⟨hne, p, hp, rfl⟩
  · rintro ⟨hne, p, hp, rfl⟩
    exact ⟨⟨p, hp, rfl⟩, hne⟩

theorem labelsOf_append (k : LabelKind) (ps qs : List (List Char)) :
    k.labelsOf (ps ++ qs) = k.labelsOf ps ++ k.labelsOf qs := by
  unfold labelsOf
  rw [List.map_append, List.filter_append]

end RecordDesk.LabelKind
