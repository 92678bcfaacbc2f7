import RecordDesk.Proofs.Metadata.Grammar
import RecordDesk.Proofs.Metadata.RoundTrip

/-!
What reading a text can give (`regular_of_read`). Whatever the text is: every level of the tree has names
in ascending order, and every other value is a scalar that fits on one line, or a list of such scalars.
The lines are taken in one after the other, so it is shown of the outline and of all its open blocks.
-/

namespace RecordDesk.Metadata

/-- The entries of a tree have names in ascending order; any other value is flat. -/
def Value.Plain : Value → Prop
  | .tree entries => Keyed.Ascending entries ∧ ∀ e ∈ entries, IsName e.1
  | v => v.IsFlat

/-- All parts of a value are plain. -/
def Value.Regular (v : Value) : Prop := ∀ u : Value, u.Inside v → u.Plain

theorem Value.Plain.fitsRows {v : Value} (h : v.Plain) : v.FitsRows := by
  cases v with
  | tree entries => exact h.2
  | _ => exact layout_valueText h

theorem Value.regular_of_isFlat {v : Value} (h : v.IsFlat) : v.Regular := by
  intro u hu
  cases hu with
  | here =>
    cases v with
    | tree entries => exact h.elim
    | _ => exact h
  | entry mem hu => exact h.elim

theorem Value.regular_nil : (Value.tree []).Regular := by
  intro u hu
  cases hu with
  | here => exact ⟨List.Pairwise.nil, fun e he => absurd he List.not_mem_nil⟩
  | entry mem hu => exact absurd mem List.not_mem_nil

theorem Value.Regular.insert {t : Tree} {k : String} {v : Value} (ht : (Value.tree t).Regular)
    (hk : IsName k) (hv : v.Regular) : (Value.tree (Keyed.insert k v t)).Regular := by
  obtain ⟨hasc, hnames⟩ := ht _ .here
  intro u hu
  cases hu with
  | here =>
    refine ⟨Keyed.ascending_insert k v hasc, fun e he => ?_⟩
    rcases Keyed.mem_insert he with rfl | he
    · exact hk
    · exact hnames e he
  | entry mem hu =>
    rcases Keyed.mem_insert mem with rfl | mem
    · exact hv u hu
    · exact ht u (.entry mem hu)

/-! ## Values -/

theorem mem_of_mem_splitItems {quote : Option Char} {cs piece : List Char} {c : Char}
    (h : piece ∈ splitItems quote cs) (hc : c ∈ piece) : c ∈ cs := by
  induction cs generalizing quote piece with
  | nil =>
    rw [List.mem_singleton.1 h] at hc
    exact hc
  | cons d cs ih =>
    rw [splitItems_cons] at h
    split at h
    · rcases List.mem_cons.1 h with rfl | h
      · cases hc
      · exact List.mem_cons_of_mem d (ih h hc)
    · cases hrest : splitItems (quoteAfter quote d) cs with
      | nil => exact absurd hrest (splitItems_ne_nil _ cs)
      | cons item items =>
        rw [hrest] at h
        rcases List.mem_cons.1 h with rfl | h
        · rcases List.mem_cons.1 hc with rfl | hc
          · exact List.mem_cons_self
          · exact List.mem_cons_of_mem d (ih (hrest ▸ List.mem_cons_self) hc)
        · exact List.mem_cons_of_mem d (ih (hrest ▸ List.mem_cons_of_mem item h) hc)

theorem fitsLine_itemOf {piece : List Char} (hline : '\n' ∉ piece) : (itemOf piece).FitsLine := by
  apply fitsLine_readScalar
  rw [String.toList_ofList]
  exact fun hmem => hline (Text.mem_of_mem_trimmed hmem)

theorem fitsLine_of_mem_itemsOf {inner : List Char} (hline : '\n' ∉ inner) :
    ∀ v ∈ itemsOf inner, v.FitsLine := by
  unfold itemsOf
  split
  · exact fun v hv => absurd hv List.not_mem_nil
  · intro v hv
    obtain ⟨piece, hpiece, rfl⟩ := List.mem_map.1 hv
    exact fitsLine_itemOf fun hmem => hline (mem_of_mem_splitItems hpiece hmem)

/-- A text on one line is read as a scalar or a list of scalars that fit on one. -/
theorem isFlat_valueOf {cs : List Char} (hline : '\n' ∉ cs) : (valueOf cs).IsFlat := by
  unfold valueOf
  split
  · next rest =>
    exact fitsLine_of_mem_itemsOf fun hmem =>
      hline (List.mem_cons_of_mem _ ((List.dropLast_sublist _).mem hmem))
  · have htoken : '\n' ∉ (String.ofList cs).toList := by rwa [String.toList_ofList]
    have hscalar := fitsLine_readScalar htoken
    generalize readScalar (.ofList cs) = v at hscalar
    cases v with
    | list items => exact hscalar.elim
    | _ => exact hscalar

/-! ## Lines -/

/-- What a line holds before its colon. -/
theorem Line.HasKey.isName {line : Line} (h : line.HasKey) (hline : '\n' ∉ line.content) :
    IsName line.key := by
  have hlist : line.key.toList = Text.trimmed (line.content.takeWhile (· != ':')) := String.toList_ofList
  have hne : Text.trimmed (line.content.takeWhile (· != ':')) ≠ [] := fun hnil =>
    h.key (congrArg String.ofList hnil)
  refine ⟨h.key, ?_, ?_, ?_⟩
  · unfold Text.trim
    rw [hlist, (Text.isTight_trimmed hne).trimmed_eq]
    rfl
  · rw [hlist]
    intro hmem
    have hcolon := List.all_eq_true.1 List.all_takeWhile ':' (Text.mem_of_mem_trimmed hmem)
    exact absurd rfl (bne_iff_ne.1 hcolon)
  · rw [hlist]
    exact fun hmem => hline ((List.takeWhile_sublist _).mem (Text.mem_of_mem_trimmed hmem))

/-- What it holds after its colon. -/
theorem Line.not_mem_value {line : Line} (hline : '\n' ∉ line.content) : '\n' ∉ line.value := fun hmem =>
  hline ((List.dropWhile_sublist _).mem (List.mem_of_mem_tail (Text.mem_of_mem_trimmed hmem)))

theorem not_mem_of_mem_textLines {s : String} {line : Line} (h : line ∈ textLines s) :
    '\n' ∉ line.content := by
  obtain ⟨row, hrow, rfl⟩ := List.mem_map.1 h
  obtain ⟨raw, hraw, hline⟩ := eq_trimmedEnd_of_mem hrow
  intro hmem
  have hfeed : '\n' ∈ row.1 := (List.dropWhile_sublist _).mem hmem
  rw [hline] at hfeed
  exact Text.not_mem_of_mem_lineList hraw ((Text.prefix_trimmedEnd raw).mem hfeed)

/-! ## Outlines -/

namespace Outline

/-- The entries and all open blocks are regular. -/
structure Regular (o : Outline) : Prop where
  entries : (Value.tree o.entries).Regular
  parents : ∀ p ∈ o.parents, IsName p.1 ∧ (Value.tree p.2).Regular

theorem regular_closing (depth : Nat) {ps : List (String × Tree)} {t : Tree}
    (hps : ∀ p ∈ ps, IsName p.1 ∧ (Value.tree p.2).Regular) (ht : (Value.tree t).Regular) :
    (closing depth ps t).Regular := by
  induction ps generalizing t with
  | nil => exact ⟨ht, fun p hp => absurd hp List.not_mem_nil⟩
  | cons p ps ih =>
    rw [closing]
    split
    · exact ⟨ht, hps⟩
    · obtain ⟨hname, hblock⟩ := hps p List.mem_cons_self
      exact ih (fun q hq => hps q (List.mem_cons_of_mem p hq)) (hblock.insert hname ht)

theorem Regular.closeTo {o : Outline} (h : o.Regular) (depth : Nat) : (o.closeTo depth).Regular :=
  regular_closing depth h.parents h.entries

theorem Regular.extend {o : Outline} {line : Line} (ho : o.Regular) (hkey : line.HasKey)
    (hline : '\n' ∉ line.content) : (o.extend line).Regular := by
  have hname := hkey.isName hline
  by_cases hopener : line.IsOpener
  · rw [extend_of_isOpener hopener]
    exact ⟨Value.regular_nil, List.forall_mem_cons.2 ⟨⟨hname, ho.entries⟩, ho.parents⟩⟩
  · rw [extend_of_not_isOpener hopener]
    have hv := Value.regular_of_isFlat (isFlat_valueOf (Line.not_mem_value hline))
    exact ⟨ho.entries.insert hname hv, ho.parents⟩

theorem Regular.add {o o' : Outline} {line : Line} (ho : o.Regular) (hline : '\n' ∉ line.content)
    (h : o.add line = .ok o') : o'.Regular := by
  obtain ⟨-, hentry, -, rfl⟩ := add_eq_ok_iff.1 h
  exact (ho.closeTo line.depth).extend hentry.toHasKey hline

theorem Regular.foldlM_add {lines : List Line} (hlines : ∀ line ∈ lines, '\n' ∉ line.content)
    {o o' : Outline} (ho : o.Regular) (h : lines.foldlM Outline.add o = .ok o') : o'.Regular := by
  induction lines generalizing o with
  | nil =>
    cases h
    exact ho
  | cons line lines ih =>
    obtain ⟨o'', hadd, h⟩ := exists_of_bind_ok h
    exact ih (fun l hl => hlines l (List.mem_cons_of_mem line hl))
      (ho.add (hlines line List.mem_cons_self) hadd) h

end Outline

/-- Every tree that is read from a text is regular. -/
theorem regular_of_read {s : String} {t : Tree} (h : Tree.read s = .ok t) : (Value.tree t).Regular := by
  obtain ⟨-, o, hfold, rfl⟩ := Tree.read_eq_ok_iff.1 h
  have hempty : Outline.empty.Regular :=
    ⟨Value.regular_nil, fun p hp => absurd hp List.not_mem_nil⟩
  have ho := hempty.foldlM_add (fun line hline => not_mem_of_mem_textLines hline) hfold
  exact (ho.closeTo 0).entries

end RecordDesk.Metadata
