import Mathlib.Data.List.Basic
import Mathlib.Data.List.Induction
import RecordDesk.Bulk
import RecordDesk.Proofs.Label.Normal

/-!
The language of the bulk prompt. A prompt is a word for an action and a list of labels behind it. No word is the
beginning of another one, so that at most one of them is read, whichever is tried first (`action?_eq_some_iff`); and a
word ends in no white space, so that the rest of the prompt does not show which of the words for its action stood
before it (`read_word_append`).
-/

namespace RecordDesk

/-- The second list has what is in the first one, in the order in which it first comes up there; so it has nothing
twice. -/
structure FirstOccurrences (xs ys : List String) : Prop where
  mem_iff : ∀ x, x ∈ ys ↔ x ∈ xs
  order : ys.Pairwise fun x y => xs.idxOf x < xs.idxOf y

/-- The words for an action. -/
def BulkAction.words : BulkAction → List String
  | .add => ["add:", "+"]
  | .remove => ["remove:", "-"]
  | .set => ["set:", "="]

/-! ## Each label once -/

theorem FirstOccurrences.nodup {xs ys : List String} (h : FirstOccurrences xs ys) : ys.Nodup := by
  refine List.Pairwise.imp (fun {x y} hlt => ?_) h.order
  rintro rfl
  exact Nat.lt_irrefl _ hlt

theorem FirstOccurrences.concat {xs ys : List String} (h : FirstOccurrences xs ys) (x : String) :
    FirstOccurrences (xs ++ [x]) (if ys.contains x then ys else ys ++ [x]) := by
  have hkept {y : String} (hy : y ∈ ys) : (xs ++ [x]).idxOf y = xs.idxOf y :=
    List.idxOf_append_of_mem ((h.mem_iff y).1 hy)
  have horder : ys.Pairwise fun y z => (xs ++ [x]).idxOf y < (xs ++ [x]).idxOf z := by
    refine h.order.imp_of_mem fun hy hz hlt => ?_
    rwa [hkept hy, hkept hz]
  split
  · next hx =>
    have hx : x ∈ xs := (h.mem_iff x).1 (List.contains_iff_mem.1 hx)
    refine ⟨fun y => ?_, horder⟩
    rw [h.mem_iff, List.mem_append, List.mem_singleton]
    exact ⟨.inl, fun hy => hy.elim id fun heq => heq ▸ hx⟩
  · next hx =>
    have hx : x ∉ ys := fun hmem => hx (List.contains_iff_mem.2 hmem)
    have hx' : x ∉ xs := fun hmem => hx ((h.mem_iff x).2 hmem)
    refine ⟨fun y => ?_, ?_⟩
    · rw [List.mem_append, List.mem_append, h.mem_iff]
    · refine List.pairwise_append.2 ⟨horder, List.pairwise_singleton _ _, fun y hy z hz => ?_⟩
      rw [List.mem_singleton.1 hz, hkept hy, List.idxOf_append_of_notMem hx']
      have hlt := List.idxOf_lt_length_of_mem ((h.mem_iff y).1 hy)
      omega

namespace BulkEdit

/-- The prompt starts with a word for an action, behind white space, and goes on with a text up to the white space at
its end. -/
def Names (input : String) (a : BulkAction) (rest : List Char) : Prop :=
  ∃ w ∈ a.words, Text.trimmed input.toList = w.toList ++ rest

theorem distinct_concat (xs : List String) (x : String) :
    distinct (xs ++ [x]) = if (distinct xs).contains x then distinct xs else distinct xs ++ [x] := by
  unfold distinct
  rw [List.foldl_append]
  rfl

theorem firstOccurrences_distinct (xs : List String) : FirstOccurrences xs (distinct xs) := by
  induction xs using List.reverseRecOn with
  | nil => exact ⟨fun _ => Iff.rfl, List.Pairwise.nil⟩
  | append_singleton xs x ih =>
    rw [distinct_concat]
    exact ih.concat x

/-! ## Words -/

variable {field : BulkField} {a : BulkAction} {w w' : String} {cs rest : List Char}

theorem mem_leads_iff : (w, a) ∈ leads ↔ w ∈ a.words := by
  cases a <;> simp [leads, BulkAction.words]

/-- No word is the beginning of another one. -/
theorem leads_apart : ∀ p ∈ leads, ∀ q ∈ leads, p.1.toList.isPrefixOf q.1.toList = true → p = q := by decide

theorem isTight_words : ∀ p ∈ leads, Text.trim p.1 = p.1 ∧ p.1 ≠ "" := by decide +kernel

theorem eq_of_words {a' : BulkAction} {rest' : List Char} (hw : w ∈ a.words) (hw' : w' ∈ a'.words)
    (h : w.toList ++ rest = w'.toList ++ rest') : a = a' ∧ rest = rest' := by
  have hapart {p q : String × BulkAction} (hp : p ∈ leads) (hq : q ∈ leads) (hpre : p.1.toList <+: q.1.toList) :
      p = q := leads_apart p hp q hq (List.isPrefixOf_iff_prefix.2 hpre)
  have hlead := mem_leads_iff.2 hw
  have hlead' := mem_leads_iff.2 hw'
  have hsame : (w, a) = (w', a') := by
    rcases List.prefix_or_prefix_of_prefix (List.prefix_append w.toList rest) (h ▸ List.prefix_append _ rest')
      with hpre | hpre
    · exact hapart hlead hlead' hpre
    · exact (hapart hlead' hlead hpre).symm
  obtain ⟨rfl, rfl⟩ := Prod.mk.inj hsame
  exact ⟨rfl, List.append_cancel_left h⟩

theorem exists_of_action? (h : action? cs = some (a, rest)) : ∃ w ∈ a.words, cs = w.toList ++ rest := by
  obtain ⟨⟨w, a'⟩, hmem, hafter⟩ := List.exists_of_findSome?_eq_some h
  obtain ⟨rest', hrest', heq⟩ := Option.map_eq_some_iff.1 hafter
  obtain ⟨rfl, rfl⟩ := Prod.mk.inj heq
  exact ⟨w, mem_leads_iff.1 hmem, Text.after?_eq_some_iff.1 hrest'⟩

/-- The action is the one whose word stands in front. -/
theorem action?_eq_some_iff : action? cs = some (a, rest) ↔ ∃ w ∈ a.words, cs = w.toList ++ rest := by
  refine ⟨exists_of_action?, ?_⟩
  rintro ⟨w, hw, rfl⟩
  cases haction : action? (w.toList ++ rest) with
  | none =>
    have hnone := List.findSome?_eq_none_iff.1 haction (w, a) (mem_leads_iff.2 hw)
    rw [Option.map_eq_none_iff] at hnone
    rw [Text.after?_eq_some_iff.2 rfl] at hnone
    cases hnone
  | some found =>
    obtain ⟨w', hw', heq⟩ := exists_of_action? haction
    obtain ⟨ha, hrest⟩ := eq_of_words hw hw' heq
    rw [ha, hrest]

/-! ## Prompts -/

theorem valuesOf_eq (k : LabelKind) (cs : List Char) :
    valuesOf k cs = distinct (k.labelsOf (Text.pieces (· == ',') cs)) := rfl

theorem firstOccurrences_valuesOf (k : LabelKind) (cs : List Char) :
    FirstOccurrences (k.labelsOf (Text.pieces (· == ',') cs)) (valuesOf k cs) := by
  rw [valuesOf_eq]
  exact firstOccurrences_distinct _

theorem valuesOf_isEmpty_iff {k : LabelKind} :
    (valuesOf k cs).isEmpty = false ↔ ∃ item ∈ Text.pieces (· == ',') cs, k.normal (.ofList item) ≠ "" := by
  rw [List.isEmpty_eq_false_iff_exists_mem]
  constructor
  · rintro ⟨v, hv⟩
    obtain ⟨hne, item, hitem, rfl⟩ := LabelKind.mem_labelsOf.1 (((firstOccurrences_valuesOf k cs).mem_iff v).1 hv)
    exact ⟨item, hitem, hne⟩
  · rintro ⟨item, hitem, hne⟩
    exact ⟨_, ((firstOccurrences_valuesOf k cs).mem_iff _).2 (LabelKind.mem_labelsOf.2 ⟨hne, item, hitem, rfl⟩)⟩

theorem read_of_names {input : String} (h : Names input a rest) :
    read field input =
      if (valuesOf field.labelKind rest).isEmpty && a != .set then .error .noValues
      else .ok ⟨a, field, valuesOf field.labelKind rest⟩ := by
  unfold read
  rw [action?_eq_some_iff.2 h]

theorem names_of_read {input : String} {e : BulkEdit} (h : read field input = .ok e) :
    ∃ rest, Names input e.action rest ∧ e.values = valuesOf field.labelKind rest ∧
      (e.action ≠ .set → (valuesOf field.labelKind rest).isEmpty = false) := by
  unfold read at h
  split at h
  · cases h
  · next a rest haction =>
    dsimp only at h
    split at h
    · cases h
    · next hvalues =>
      cases h
      refine ⟨rest, action?_eq_some_iff.1 haction, rfl, fun hset => ?_⟩
      rw [Bool.and_eq_true, not_and, bne_iff_ne] at hvalues
      exact Bool.eq_false_iff.2 fun hempty => hvalues hempty hset

theorem trimmed_word_append (hw : w ∈ a.words) (s : String) :
    Text.trimmed (w ++ s).toList = w.toList ++ Text.trimmedEnd s.toList := by
  obtain ⟨htrim, hne⟩ := isTight_words (w, a) (mem_leads_iff.2 hw)
  rw [String.toList_append]
  exact (Text.isTight_of_trim htrim hne).trimmed_append s.toList

/-- The words for an action stand for each other. -/
theorem read_word_append (hw : w ∈ a.words) (hw' : w' ∈ a.words) (s : String) :
    read field (w ++ s) = read field (w' ++ s) := by
  rw [read_of_names ⟨w, hw, trimmed_word_append hw s⟩, read_of_names ⟨w', hw', trimmed_word_append hw' s⟩]

/-- A prompt is read when it starts with a word for an action and, unless that is to set the labels, names one. What
is read is that action, with the labels that are named, each once and in their order. The words for an action mean the
same before every text. -/
theorem prompt_language (field : BulkField) (input : String) :
    ((∃ e, read field input = .ok e) ↔ ∃ a rest, Names input a rest ∧
      (a ≠ .set → ∃ item ∈ Text.pieces (· == ',') rest, field.labelKind.normal (.ofList item) ≠ "")) ∧
    (∀ e a rest, read field input = .ok e → Names input a rest →
      e.action = a ∧ e.field = field ∧
        FirstOccurrences (field.labelKind.labelsOf (Text.pieces (· == ',') rest)) e.values) ∧
    ∀ (a : BulkAction), ∀ w ∈ a.words, ∀ w' ∈ a.words, ∀ s, read field (w ++ s) = read field (w' ++ s) := by
  refine ⟨⟨?_, ?_⟩, ?_, fun a w hw w' hw' s => read_word_append hw hw' s⟩
  · rintro ⟨e, he⟩
    obtain ⟨rest, hnames, -, hvalues⟩ := names_of_read he
    exact ⟨e.action, rest, hnames, fun hset => valuesOf_isEmpty_iff.1 (hvalues hset)⟩
  · rintro ⟨a, rest, hnames, hvalues⟩
    refine ⟨⟨a, field, valuesOf field.labelKind rest⟩, ?_⟩
    rw [read_of_names hnames, if_neg]
    rw [Bool.and_eq_true, bne_iff_ne]
    rintro ⟨hempty, hset⟩
    rw [valuesOf_isEmpty_iff.2 (hvalues hset)] at hempty
    cases hempty
  · intro e a rest he hnames
    rw [read_of_names hnames] at he
    split at he
    · cases he
    · cases he
      exact ⟨rfl, rfl, firstOccurrences_valuesOf field.labelKind rest⟩

/-- Two spellings of one scope, an item of white space only, and one that is no label. -/
theorem prompt_language_scopes :
    read .scopes " add: #Work,\u3000, WORK,##, Home " = .ok ⟨.add, .scopes, ["work", "home"]⟩ ∧
      Names " add: #Work,\u3000, WORK,##, Home " .add " #Work,\u3000, WORK,##, Home".toList ∧
      FirstOccurrences ["work", "work", "home"] ["work", "home"] ∧
      read .scopes ("add:" ++ "#Work") = read .scopes ("+" ++ "#Work") := by
  have hnames : Names " add: #Work,\u3000, WORK,##, Home " .add " #Work,\u3000, WORK,##, Home".toList :=
    ⟨"add:", by decide, by decide +kernel⟩
  have hvalues : valuesOf BulkField.scopes.labelKind " #Work,\u3000, WORK,##, Home".toList = ["work", "home"] := by
    decide +kernel
  have hlabels : BulkField.scopes.labelKind.labelsOf
      (Text.pieces (· == ',') " #Work,\u3000, WORK,##, Home".toList) = ["work", "work", "home"] := by
    decide +kernel
  have hread : read .scopes " add: #Work,\u3000, WORK,##, Home " = .ok ⟨.add, .scopes, ["work", "home"]⟩ := by
    rw [read_of_names hnames, hvalues]
    rfl
  obtain ⟨-, hreads, hwords⟩ := prompt_language .scopes " add: #Work,\u3000, WORK,##, Home "
  have hfirst := (hreads _ .add _ hread hnames).2.2
  rw [hlabels] at hfirst
  exact ⟨hread, hnames, hfirst, hwords .add "add:" (by decide) "+" (by decide) "#Work"⟩

end BulkEdit

end RecordDesk
