import RecordDesk.Metadata.Reader
import RecordDesk.Proofs.Text.Cutting

/-!
What one more line does to an outline. An outline that stands at some open blocks may have more blocks
open inside them: those are closed when the next line asks for it.
-/

namespace RecordDesk.Metadata

/-! ## Closing blocks -/

namespace Outline

theorem closing_of_length_le {depth : Nat} {ps : List (String × Tree)} (h : ps.length ≤ depth)
    (t : Tree) : closing depth ps t = ⟨ps, t⟩ := by
  cases ps with
  | nil => rfl
  | cons p ps => exact if_pos h

/-- Closing in two goes. -/
theorem closing_closing {depth depth' : Nat} (h : depth ≤ depth') (ps : List (String × Tree))
    (t : Tree) :
    closing depth (closing depth' ps t).parents (closing depth' ps t).entries = closing depth ps t := by
  induction ps generalizing t with
  | nil => rfl
  | cons p ps ih =>
    by_cases hlen : ps.length < depth'
    · have hsame : closing depth' (p :: ps) t = ⟨p :: ps, t⟩ := if_pos hlen
      rw [hsame]
    · have hinner : closing depth' (p :: ps) t = closing depth' ps (Keyed.insert p.1 (.tree t) p.2) :=
        if_neg hlen
      have houter : closing depth (p :: ps) t = closing depth ps (Keyed.insert p.1 (.tree t) p.2) :=
        if_neg (by omega)
      rw [hinner, houter, ih]

theorem parents_closing (depth : Nat) (ps : List (String × Tree)) (t : Tree) :
    (closing depth ps t).parents = ps.drop (ps.length - depth) := by
  induction ps generalizing t with
  | nil => rw [List.drop_nil]; rfl
  | cons p ps ih =>
    rw [closing]
    split
    · next h => rw [List.length_cons, Nat.sub_eq_zero_of_le (by omega), List.drop_zero]
    · next h =>
      have hsub : (p :: ps).length - depth = ps.length - depth + 1 := by
        rw [List.length_cons]
        omega
      rw [ih, hsub, List.drop_succ_cons]

theorem parents_closeTo (o : Outline) (depth : Nat) :
    (o.closeTo depth).parents = o.parents.drop (o.parents.length - depth) :=
  parents_closing depth o.parents o.entries

theorem length_parents_closeTo {o : Outline} {depth : Nat} (h : depth ≤ o.parents.length) :
    (o.closeTo depth).parents.length = depth := by
  rw [parents_closeTo, List.length_drop]
  omega

theorem closeTo_of_length_le {o : Outline} {depth : Nat} (h : o.parents.length ≤ depth) :
    o.closeTo depth = o := closing_of_length_le h o.entries

theorem closeTo_closeTo {o : Outline} {depth depth' : Nat} (h : depth ≤ depth') :
    (o.closeTo depth').closeTo depth = o.closeTo depth := closing_closing h o.parents o.entries

/-- What is below the level does not count for its keys. -/
theorem contains_closing {depth : Nat} {ps : List (String × Tree)} (h : depth < ps.length) (k : String)
    (t u : Tree) :
    Keyed.contains k (closing depth ps t).entries = Keyed.contains k (closing depth ps u).entries := by
  induction ps generalizing t u with
  | nil => exact absurd h (Nat.not_lt_zero _)
  | cons p ps ih =>
    have hdepth : depth ≤ ps.length := Nat.le_of_lt_succ h
    rw [closing, if_neg (Nat.not_lt.2 hdepth), closing, if_neg (Nat.not_lt.2 hdepth)]
    rcases Nat.lt_or_eq_of_le hdepth with hlt | rfl
    · exact ih hlt _ _
    · rw [closing_of_length_le (Nat.le_refl _), closing_of_length_le (Nat.le_refl _), Bool.eq_iff_iff,
        Keyed.contains_insert_iff, Keyed.contains_insert_iff]

/-- The outline has the blocks `ps` open, and `entries` stand in the innermost of them as soon as the
blocks opened after it are closed. -/
structure StandsAt (o : Outline) (ps : List (String × Tree)) (entries : Tree) : Prop where
  deep : ps.length ≤ o.parents.length
  closes : o.closeTo ps.length = ⟨ps, entries⟩

theorem standsAt_self (ps : List (String × Tree)) (t : Tree) : StandsAt ⟨ps, t⟩ ps t :=
  ⟨Nat.le_refl _, closing_of_length_le (Nat.le_refl _) t⟩

/-- Leaving a block puts its entries under its key. -/
theorem StandsAt.leave {o : Outline} {ps : List (String × Tree)} {key : String} {before inside : Tree}
    (h : o.StandsAt ((key, before) :: ps) inside) :
    o.StandsAt ps (Keyed.insert key (.tree inside) before) := by
  have hdeep : ps.length + 1 ≤ o.parents.length := h.deep
  have hcloses : closing (ps.length + 1) o.parents o.entries = ⟨(key, before) :: ps, inside⟩ := h.closes
  refine ⟨by omega, ?_⟩
  have htwo := closing_closing (Nat.le_succ ps.length) o.parents o.entries
  rw [hcloses] at htwo
  have hout : closing ps.length ((key, before) :: ps) inside =
      closing ps.length ps (Keyed.insert key (.tree inside) before) := if_neg (Nat.lt_irrefl _)
  rw [hout, closing_of_length_le (Nat.le_refl _)] at htwo
  exact htwo.symm

end Outline

/-! ## One line -/

/-- What a line can hold before its colon. -/
structure IsName (k : String) : Prop where
  ne_empty : k ≠ ""
  trim_eq : Text.trim k = k
  no_colon : ':' ∉ k.toList
  oneLine : '\n' ∉ k.toList

theorem IsName.isTight {k : String} (h : IsName k) : Text.IsTight k.toList :=
  Text.isTight_of_trim h.trim_eq h.ne_empty

/-- A key that a line can hold. -/
structure IsKey (k : String) : Prop where
  ne_empty : k ≠ ""
  trim_eq : Text.trim k = k
  no_colon : ':' ∉ k.toList
  oneLine : '\n' ∉ k.toList
  no_item : ¬ ['-', ' '] <+: k.toList

instance (k : String) : Decidable (IsKey k) :=
  decidable_of_iff (k ≠ "" ∧ Text.trim k = k ∧ ':' ∉ k.toList ∧ '\n' ∉ k.toList ∧
      ¬ ['-', ' '] <+: k.toList)
    ⟨fun ⟨hne, htrim, hcolon, hline, hitem⟩ => ⟨hne, htrim, hcolon, hline, hitem⟩,
      fun h => ⟨h.ne_empty, h.trim_eq, h.no_colon, h.oneLine, h.no_item⟩⟩

theorem IsKey.isName {k : String} (h : IsKey k) : IsName k :=
  ⟨h.ne_empty, h.trim_eq, h.no_colon, h.oneLine⟩

theorem IsName.isKey {k : String} (h : IsName k) (hitem : ¬ ['-', ' '] <+: k.toList) : IsKey k :=
  ⟨h.ne_empty, h.trim_eq, h.no_colon, h.oneLine, hitem⟩

theorem IsKey.isTight {k : String} (h : IsKey k) : Text.IsTight k.toList := h.isName.isTight

/-- A key with its colon is not taken for an item of a list. -/
theorem not_item_of_isKey {k : String} (h : IsKey k) (rest : List Char) :
    ¬ (k.toList ++ ':' :: rest = ['-'] ∨ Text.after? ['-', ' '] (k.toList ++ ':' :: rest) ≠ none) := by
  have hno := h.no_item
  obtain ⟨c, cs, heq, -⟩ := h.isTight.exists_cons
  rw [Text.after?_ne_none_iff]
  rw [heq] at hno ⊢
  rintro (hdash | hitem)
  · cases cs with
    | nil => cases hdash
    | cons d cs => cases hdash
  · obtain ⟨rfl, hsecond⟩ := List.cons_prefix_cons.1 hitem
    cases cs with
    | nil => exact absurd (List.cons_prefix_cons.1 hsecond).1 (by decide)
    | cons d cs =>
      obtain ⟨rfl, -⟩ := List.cons_prefix_cons.1 hsecond
      exact hno ⟨cs, rfl⟩

/-- A line with a key gives it back, with the text after the colon. -/
theorem entry_of_isKey {k : String} (h : IsKey k) (number depth : Nat) (rest : List Char) :
    (Line.mk number depth (k.toList ++ ':' :: rest)).entry = .ok (k, Text.trimmed rest) := by
  obtain ⟨c, cs, heq, -⟩ := h.isTight.exists_cons
  unfold Line.entry
  dsimp only
  rw [if_neg (not_item_of_isKey h rest), Text.cutAt_append h.no_colon]
  dsimp only
  rw [h.isTight.trimmed_eq, heq]
  dsimp only
  rw [← heq, String.ofList_toList]

namespace Outline

variable {o : Outline} {ps : List (String × Tree)} {done : Tree} {k : String} {number : Nat}

/-- A key that is new on its level opens a block or adds an entry. -/
theorem put_of_entry {line : Line} {value : List Char} (hentry : line.entry = .ok (k, value))
    (hnew : Keyed.contains k o.entries = false) :
    o.put line =
      if value.isEmpty then .ok ⟨(k, o.entries) :: o.parents, []⟩
      else (readValue value).map fun v => ⟨o.parents, Keyed.insert k v o.entries⟩ := by
  unfold put
  rw [hentry]
  dsimp only [bind, Except.bind]
  rw [hnew, if_neg Bool.false_ne_true]
  split
  · rfl
  · cases readValue value with
    | error fault => rfl
    | ok v => rfl

theorem add_eq_put (h : o.StandsAt ps done) (content : List Char) :
    o.add ⟨number, ps.length, content⟩ =
      ((⟨ps, done⟩ : Outline).put ⟨number, ps.length, content⟩).mapError (⟨number, ·⟩) := by
  have hdeep : ¬ o.parents.length < ps.length := Nat.not_lt.2 h.deep
  unfold add
  dsimp only
  rw [if_neg hdeep, h.closes]

/-- A key without a value opens a block. -/
theorem add_key (h : o.StandsAt ps done) (hk : IsKey k) (habove : ∀ e ∈ done, e.1 < k) :
    o.add ⟨number, ps.length, k.toList ++ [':']⟩ = .ok ⟨(k, done) :: ps, []⟩ := by
  rw [add_eq_put h, put_of_entry (entry_of_isKey hk number ps.length []) (Keyed.contains_of_above habove)]
  rfl

/-- A key with a value adds an entry, if the value can be read. -/
theorem add_value_eq (h : o.StandsAt ps done) (hk : IsKey k) (habove : ∀ e ∈ done, e.1 < k)
    {cs : List Char} (htight : Text.IsTight cs) :
    o.add ⟨number, ps.length, k.toList ++ ':' :: ' ' :: cs⟩ =
      ((readValue cs).map fun v => ⟨ps, done ++ [(k, v)]⟩).mapError (⟨number, ·⟩) := by
  have hentry := entry_of_isKey hk number ps.length (' ' :: cs)
  rw [Text.trimmed_cons_of_isBlank rfl, htight.trimmed_eq] at hentry
  have hne : cs.isEmpty = false := by
    obtain ⟨c, rest, rfl, -⟩ := htight.exists_cons
    rfl
  rw [add_eq_put h, put_of_entry hentry (Keyed.contains_of_above habove), hne,
    if_neg Bool.false_ne_true]
  simp only [Keyed.insert_of_above habove]

theorem add_value (h : o.StandsAt ps done) (hk : IsKey k) (habove : ∀ e ∈ done, e.1 < k)
    {cs : List Char} (htight : Text.IsTight cs) {v : Value} (hread : readValue cs = .ok v) :
    o.add ⟨number, ps.length, k.toList ++ ':' :: ' ' :: cs⟩ = .ok ⟨ps, done ++ [(k, v)]⟩ := by
  rw [add_value_eq h hk habove htight, hread]
  rfl

/-- A line with a name before its colon is only taken in when the name cannot be mistaken for the
beginning of a list item. -/
theorem isKey_of_add (h : o.StandsAt ps done) (hk : IsName k) {rest : List Char} {o' : Outline}
    (hadd : o.add ⟨number, ps.length, k.toList ++ ':' :: rest⟩ = .ok o') : IsKey k := by
  refine hk.isKey ?_
  intro hitem
  have hafter := Text.after?_ne_none_iff.2 (hitem.trans (List.prefix_append _ (':' :: rest)))
  have hentry : (Line.mk number ps.length (k.toList ++ ':' :: rest)).entry = .error .listItemLine :=
    if_pos (.inr hafter)
  rw [add_eq_put h] at hadd
  unfold Outline.put at hadd
  rw [hentry] at hadd
  cases hadd

end Outline

end RecordDesk.Metadata
