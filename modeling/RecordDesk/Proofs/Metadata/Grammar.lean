import Mathlib.Data.List.Chain
import Mathlib.Data.List.DropRight
import RecordDesk.Proofs.Metadata.Outline
import RecordDesk.Proofs.Metadata.Separation

/-!
The grammar of a metadata text, as a property of its lines: how each is indented, what each holds, how
deep each stands after the one before it, and which keys may not come twice. One part after the other,
the reader takes exactly what the grammar allows.
-/

namespace RecordDesk.Metadata

/-! ## Values -/

/-- Pieces into which a text is cut at its commas outside quotes. -/
structure IsCut (cs : List Char) (pieces : List (List Char)) : Prop where
  ne_nil : pieces ≠ []
  joined : [','].intercalate pieces = cs
  apart : Apart pieces

/-- An item of a list is not blank, and neither a list nor an object. -/
def IsItem (piece : List Char) : Prop :=
  Text.trimmed piece ≠ [] ∧ (Text.trimmed piece).head? ≠ some '[' ∧
    (Text.trimmed piece).head? ≠ some '{'

/-- What can stand between the brackets of a list. -/
def IsItems (inner : List Char) : Prop :=
  (∀ c ∈ inner, Text.isBlank c = true) ∨
    ∃ pieces, IsCut inner pieces ∧ ∀ piece ∈ pieces, IsItem piece

/-- What can stand after the colon of a line, without the white space around it. -/
def IsValue : List Char → Prop
  | '{' :: _ => False
  | '[' :: rest => ∃ inner, rest = inner ++ [']'] ∧ IsItems inner
  | _ => True

def itemOf (piece : List Char) : Value := readScalar (.ofList (Text.trimmed piece))

def itemsOf (inner : List Char) : List Value :=
  if inner.all Text.isBlank then [] else (splitItems none inner).map itemOf

/-- The value that is written so. -/
def valueOf : List Char → Value
  | '[' :: rest => .list (itemsOf rest.dropLast)
  | cs => readScalar (.ofList cs)

theorem isCut_of_splitItems {cs : List Char} {pieces : List (List Char)}
    (h : splitItems none cs = pieces) : IsCut cs pieces := by
  induction pieces generalizing cs with
  | nil => exact absurd h (splitItems_ne_nil none cs)
  | cons p ps ih =>
    rcases splitItems_eq_cons h with ⟨rfl, rfl, hunsplit⟩ | ⟨rest, rfl, hunsplit, hcloses, hps⟩
    · exact ⟨List.cons_ne_nil _ _, List.intercalate_singleton, hunsplit⟩
    · obtain ⟨-, hjoined, hapart⟩ := ih hps.symm
      cases ps with
      | nil => exact absurd hps.symm (splitItems_ne_nil none rest)
      | cons q qs =>
        refine ⟨List.cons_ne_nil _ _, ?_, ⟨hunsplit, hcloses⟩, hapart⟩
        rw [List.intercalate_cons_cons, hjoined, List.append_assoc]
        rfl

theorem IsCut.splitItems_eq {cs : List Char} {pieces : List (List Char)} (h : IsCut cs pieces) :
    splitItems none cs = pieces := by
  obtain ⟨hne, rfl, hapart⟩ := h
  induction pieces with
  | nil => exact absurd rfl hne
  | cons p ps ih =>
    cases ps with
    | nil =>
      have hunsplit : Unsplit none p := hapart
      have hsplit := splitItems_append hunsplit []
      rw [List.append_nil] at hsplit
      rw [List.intercalate_singleton, hsplit]
      show [p ++ []] = [p]
      rw [List.append_nil]
    | cons q qs =>
      obtain ⟨hp, hqs⟩ := hapart
      rw [List.intercalate_cons_cons, List.append_assoc, splitItems_append hp.unsplit, hp.closes,
        List.singleton_append, splitItems_cons, if_pos ⟨rfl, rfl⟩, ih (List.cons_ne_nil _ _) hqs]
      show (p ++ []) :: q :: qs = p :: q :: qs
      rw [List.append_nil]

/-- There is one way to cut a text. -/
theorem splitItems_eq_iff {cs : List Char} {pieces : List (List Char)} :
    splitItems none cs = pieces ↔ IsCut cs pieces :=
  ⟨isCut_of_splitItems, IsCut.splitItems_eq⟩

theorem readItem_eq_ok_iff {piece : List Char} {v : Value} :
    readItem piece = .ok v ↔ IsItem piece ∧ v = itemOf piece := by
  unfold readItem IsItem itemOf
  cases Text.trimmed piece with
  | nil => simp
  | cons c rest =>
    by_cases hc : c = '[' ∨ c = '{'
    · dsimp only
      rw [if_pos hc]
      rcases hc with rfl | rfl <;> simp
    · dsimp only
      rw [if_neg hc]
      simp only [not_or] at hc
      simp [hc, eq_comm]

theorem mapM_readItem_eq_ok_iff {pieces : List (List Char)} {items : List Value} :
    pieces.mapM readItem = .ok items ↔
      (∀ piece ∈ pieces, IsItem piece) ∧ items = pieces.map itemOf := by
  induction pieces generalizing items with
  | nil =>
    constructor
    · rintro ⟨⟩
      exact ⟨fun piece hpiece => absurd hpiece List.not_mem_nil, rfl⟩
    · rintro ⟨-, rfl⟩
      rfl
  | cons p ps ih =>
    constructor
    · intro h
      obtain ⟨v, vs, rfl, hp, hps⟩ := mapM_readItem_cons h
      obtain ⟨hitem, rfl⟩ := readItem_eq_ok_iff.1 hp
      obtain ⟨hitems, rfl⟩ := ih.1 hps
      exact ⟨List.forall_mem_cons.2 ⟨hitem, hitems⟩, rfl⟩
    · rintro ⟨hitems, rfl⟩
      obtain ⟨hitem, hrest⟩ := List.forall_mem_cons.1 hitems
      rw [List.mapM_cons, readItem_eq_ok_iff.2 ⟨hitem, rfl⟩, ih.2 ⟨hrest, rfl⟩]
      rfl

theorem readItems_eq_ok_iff {inner : List Char} {v : Value} :
    readItems inner = .ok v ↔ IsItems inner ∧ v = .list (itemsOf inner) := by
  unfold readItems itemsOf
  by_cases hblank : inner.all Text.isBlank = true
  · have hitems : IsItems inner := .inl (List.all_eq_true.1 hblank)
    rw [if_pos hblank, if_pos hblank, and_iff_right hitems, Except.ok.injEq, eq_comm]
  · rw [if_neg hblank, if_neg hblank]
    constructor
    · intro h
      obtain ⟨items, hread, h⟩ := exists_of_bind_ok h
      cases h
      obtain ⟨hitems, rfl⟩ := mapM_readItem_eq_ok_iff.1 hread
      exact ⟨.inr ⟨_, splitItems_eq_iff.1 rfl, hitems⟩, rfl⟩
    · rintro ⟨hinner | ⟨pieces, hcut, hitems⟩, rfl⟩
      · exact absurd (List.all_eq_true.2 hinner) hblank
      · rw [hcut.splitItems_eq, mapM_readItem_eq_ok_iff.2 ⟨hitems, rfl⟩]
        rfl

theorem readValue_eq_ok_iff {cs : List Char} {v : Value} :
    readValue cs = .ok v ↔ IsValue cs ∧ v = valueOf cs := by
  unfold readValue
  split
  · simp [IsValue]
  · next rest =>
    unfold IsValue valueOf
    by_cases hlast : rest.getLast? = some ']'
    · obtain ⟨inner, rfl⟩ := List.getLast?_eq_some_iff.1 hlast
      rw [if_pos hlast, List.dropLast_concat, readItems_eq_ok_iff]
      simp
    · rw [if_neg hlast]
      constructor
      · rintro ⟨⟩
      · rintro ⟨⟨inner, rfl, -⟩, -⟩
        exact absurd List.getLast?_concat hlast
  · next hobject hlist =>
    have hvalue : IsValue cs := by
      unfold IsValue
      split
      · exact absurd rfl (hobject _)
      · exact absurd rfl (hlist _)
      · trivial
    have hof : valueOf cs = readScalar (.ofList cs) := by
      unfold valueOf
      split
      · exact absurd rfl (hlist _)
      · rfl
    rw [and_iff_right hvalue, hof, Except.ok.injEq, eq_comm]

/-! ## Single lines -/

namespace Line

/-- What stands before the colon, without the white space around it. -/
def key (line : Line) : String := .ofList (Text.trimmed (line.content.takeWhile (· != ':')))

/-- What stands after the colon, without the white space around it. -/
def value (line : Line) : List Char := Text.trimmed (line.content.dropWhile (· != ':')).tail

/-- A key without a value opens a block. -/
def IsOpener (line : Line) : Prop := line.value = []

instance : DecidablePred IsOpener := fun line => inferInstanceAs (Decidable (line.value = []))

/-- The value of a line; an opener has none of its own. -/
def held (line : Line) : Option Value := if line.IsOpener then none else some (valueOf line.value)

/-- A line with a key: it is no item of a list, and the text before its first colon is not blank. -/
structure HasKey (line : Line) : Prop where
  no_dash : line.content ≠ ['-']
  no_item : ¬ ['-', ' '] <+: line.content
  colon : ':' ∈ line.content
  key : line.key ≠ ""

/-- What the grammar says of a line without looking at others. -/
structure IsEntry (line : Line) : Prop extends line.HasKey where
  value : IsValue line.value

theorem entry_eq_ok_iff {line : Line} {k : String} {value : List Char} :
    line.entry = .ok (k, value) ↔ line.HasKey ∧ k = line.key ∧ value = line.value := by
  unfold entry
  by_cases hitem : line.content = ['-'] ∨ Text.after? ['-', ' '] line.content ≠ none
  · rw [if_pos hitem]
    refine iff_of_false (fun h => by cases h) fun ⟨h, _⟩ => ?_
    exact hitem.elim h.no_dash fun hafter => h.no_item (Text.after?_ne_none_iff.1 hafter)
  · obtain ⟨hdash, hafter⟩ := not_or.1 hitem
    rw [if_neg hitem]
    by_cases hcolon : ':' ∈ line.content
    · rw [Text.cutAt_of_mem hcolon]
      dsimp only
      cases hkey : Text.trimmed (line.content.takeWhile (· != ':')) with
      | nil => exact iff_of_false (fun h => by cases h) fun ⟨h, _⟩ => h.key (congrArg String.ofList hkey)
      | cons c cs =>
        have hk : line.key = String.ofList (c :: cs) := congrArg String.ofList hkey
        have hhas : line.HasKey := by
          refine ⟨hdash, fun hpre => hafter (Text.after?_ne_none_iff.2 hpre), hcolon, ?_⟩
          rw [hk]
          exact fun hnil => List.cons_ne_nil c cs (String.ofList_eq_empty_iff.1 hnil)
        rw [and_iff_right hhas, hk, Except.ok.injEq, Prod.mk.injEq, eq_comm, eq_comm (b := value)]
        rfl
    · rw [Text.cutAt_of_not_mem hcolon]
      exact iff_of_false (fun h => by cases h) fun ⟨h, _⟩ => hcolon h.colon

end Line

/-! ## Taking in a line -/

namespace Outline

/-- A block is opened under the key of the line, or an entry added with its value. -/
def extend (o : Outline) (line : Line) : Outline :=
  match line.held with
  | none => ⟨(line.key, o.entries) :: o.parents, []⟩
  | some v => ⟨o.parents, Keyed.insert line.key v o.entries⟩

theorem extend_of_isOpener {line : Line} (h : line.IsOpener) (o : Outline) :
    o.extend line = ⟨(line.key, o.entries) :: o.parents, []⟩ := by
  unfold extend Line.held
  rw [if_pos h]

theorem extend_of_not_isOpener {line : Line} (h : ¬ line.IsOpener) (o : Outline) :
    o.extend line = ⟨o.parents, Keyed.insert line.key (valueOf line.value) o.entries⟩ := by
  unfold extend Line.held
  rw [if_neg h]

theorem put_of_hasKey {o o' : Outline} {line : Line} (hkey : line.HasKey)
    (hnew : Keyed.contains line.key o.entries = false) :
    o.put line = .ok o' ↔ IsValue line.value ∧ o' = o.extend line := by
  rw [put_of_entry (Line.entry_eq_ok_iff.2 ⟨hkey, rfl, rfl⟩) hnew]
  by_cases hopener : line.IsOpener
  · have hvalue : IsValue line.value := by
      rw [hopener]
      trivial
    rw [if_pos (List.isEmpty_iff.2 hopener), extend_of_isOpener hopener, and_iff_right hvalue,
      Except.ok.injEq, eq_comm]
  · rw [if_neg fun hempty => hopener (List.isEmpty_iff.1 hempty), extend_of_not_isOpener hopener]
    constructor
    · intro h
      obtain ⟨v, hread, rfl⟩ := exists_of_map_ok h
      obtain ⟨hvalue, rfl⟩ := readValue_eq_ok_iff.1 hread
      exact ⟨hvalue, rfl⟩
    · rintro ⟨hvalue, rfl⟩
      rw [readValue_eq_ok_iff.2 ⟨hvalue, rfl⟩]
      rfl

/-- A line is taken in when it is an entry with a key that is new on its level. -/
theorem put_eq_ok_iff {o o' : Outline} {line : Line} :
    o.put line = .ok o' ↔
      line.IsEntry ∧ Keyed.contains line.key o.entries = false ∧ o' = o.extend line := by
  constructor
  · intro h
    obtain ⟨⟨k, value⟩, hentry, hput⟩ := exists_of_bind_ok h
    obtain ⟨hkey, rfl, rfl⟩ := Line.entry_eq_ok_iff.1 hentry
    dsimp only at hput
    split at hput
    · cases hput
    · next hnew =>
      have hnew : Keyed.contains line.key o.entries = false := Bool.not_eq_true _ ▸ hnew
      obtain ⟨hvalue, ho'⟩ := (put_of_hasKey hkey hnew).1 h
      exact ⟨⟨hkey, hvalue⟩, hnew, ho'⟩
  · rintro ⟨⟨hkey, hvalue⟩, hnew, ho'⟩
    exact (put_of_hasKey hkey hnew).2 ⟨hvalue, ho'⟩

/-- Besides, it may not be deeper than the innermost open block. -/
theorem add_eq_ok_iff {o o' : Outline} {line : Line} :
    o.add line = .ok o' ↔
      line.depth ≤ o.parents.length ∧ line.IsEntry ∧
        Keyed.contains line.key (o.closeTo line.depth).entries = false ∧
        o' = (o.closeTo line.depth).extend line := by
  unfold add
  split
  · next hdeep => exact iff_of_false (fun h => by cases h) fun h => Nat.not_lt.2 h.1 hdeep
  · next hdeep =>
    rw [and_iff_right (Nat.not_lt.1 hdeep), ← put_eq_ok_iff]
    cases (o.closeTo line.depth).put line with
    | error fault => exact iff_of_false (fun h => by cases h) fun h => by cases h
    | ok o'' =>
      show Except.ok o'' = Except.ok o' ↔ _
      rw [Except.ok.injEq, Except.ok.injEq]

end Outline

/-! ## Indentation -/

/-- The number of spaces in front of a line. -/
def leading (raw : List Char) : Nat := (raw.takeWhile (· == ' ')).length

/-- A line stands behind an even number of spaces, and no tab follows them. -/
structure IsIndented (raw : List Char) : Prop where
  even : leading raw % 2 = 0
  no_tab : (raw.dropWhile (· == ' ')).head? ≠ some '\t'

/-- The lines that are not blank, each with its number and without the white space at its end. -/
def solidLines (number : Nat) (raws : List (List Char)) : List (List Char × Nat) :=
  ((raws.map Text.trimmedEnd).zipIdx number).filter fun row => row.1 ≠ []

/-- Two spaces a level. -/
def Line.measure (row : List Char × Nat) : Line :=
  ⟨row.2, leading row.1 / 2, row.1.dropWhile (· == ' ')⟩

theorem solidLines_cons (number : Nat) (raw : List Char) (raws : List (List Char)) :
    solidLines number (raw :: raws) =
      if Text.trimmedEnd raw = [] then solidLines (number + 1) raws
      else (Text.trimmedEnd raw, number) :: solidLines (number + 1) raws := by
  unfold solidLines
  rw [List.map_cons, List.zipIdx_cons]
  split
  · next hraw => exact List.filter_cons_of_neg (by simp [hraw])
  · next hraw => exact List.filter_cons_of_pos (by simp [hraw])

theorem eq_trimmedEnd_of_mem {number : Nat} {raws : List (List Char)} {row : List Char × Nat}
    (h : row ∈ solidLines number raws) : ∃ raw ∈ raws, row.1 = Text.trimmedEnd raw := by
  obtain ⟨raw, hraw, heq⟩ := List.mem_map.1 (List.fst_mem_of_mem_zipIdx (List.mem_filter.1 h).1)
  exact ⟨raw, hraw, heq.symm⟩

theorem dropWhile_ne_nil {raw : List Char} (h : Text.trimmedEnd raw ≠ []) :
    (Text.trimmedEnd raw).dropWhile (· == ' ') ≠ [] := by
  obtain ⟨c, hlast, hblank⟩ := Text.last_trimmedEnd h
  intro hnil
  have hc := List.dropWhile_eq_nil_iff.1 hnil c (List.mem_of_getLast? hlast)
  rw [beq_iff_eq.1 hc] at hblank
  revert hblank
  decide

theorem ofText?_of_blank {raw : List Char} (h : Text.trimmedEnd raw = []) (number : Nat) :
    Line.ofText? number raw = .ok none := by
  unfold Line.ofText?
  rw [h]
  rfl

theorem ofText?_eq_ok_iff {raw : List Char} (h : Text.trimmedEnd raw ≠ []) {number : Nat}
    {line : Option Line} :
    Line.ofText? number raw = .ok line ↔
      IsIndented (Text.trimmedEnd raw) ∧ line = some (Line.measure (Text.trimmedEnd raw, number)) := by
  unfold Line.ofText? Line.measure leading
  have hdrop := dropWhile_ne_nil h
  dsimp only
  cases hcontent : (Text.trimmedEnd raw).dropWhile (· == ' ') with
  | nil => exact absurd hcontent hdrop
  | cons c rest =>
    dsimp only
    split
    · next htab =>
      refine iff_of_false (fun h => by cases h) fun ⟨h, _⟩ => h.no_tab ?_
      rw [hcontent, htab]
      rfl
    · next htab =>
      split
      · next hodd => exact iff_of_false (fun h => by cases h) fun ⟨h, _⟩ => hodd h.even
      · next heven =>
        have hindented : IsIndented (Text.trimmedEnd raw) := by
          refine ⟨not_not.1 heven, ?_⟩
          rw [hcontent]
          exact fun hhead => htab (Option.some.inj hhead)
        rw [and_iff_right hindented, Except.ok.injEq, eq_comm]

/-- All lines are measured if all are indented as they should be. -/
theorem listFrom_eq_ok_iff {number : Nat} {raws : List (List Char)} {lines : List Line} :
    Line.listFrom number raws = .ok lines ↔
      (∀ row ∈ solidLines number raws, IsIndented row.1) ∧
        lines = (solidLines number raws).map Line.measure := by
  induction raws generalizing number lines with
  | nil =>
    constructor
    · rintro ⟨⟩
      exact ⟨fun row hrow => absurd hrow List.not_mem_nil, rfl⟩
    · rintro ⟨-, rfl⟩
      rfl
  | cons raw raws ih =>
    rw [solidLines_cons]
    by_cases hraw : Text.trimmedEnd raw = []
    · rw [if_pos hraw, ← ih, Line.listFrom, ofText?_of_blank hraw]
      show (Line.listFrom (number + 1) raws).bind (fun rest => .ok rest) = .ok lines ↔ _
      cases Line.listFrom (number + 1) raws <;> exact Iff.rfl
    · rw [if_neg hraw, List.forall_mem_cons, List.map_cons]
      constructor
      · intro h
        obtain ⟨first, hfirst, h⟩ := exists_of_bind_ok h
        obtain ⟨rest, hrest, h⟩ := exists_of_bind_ok h
        cases h
        obtain ⟨hindented, rfl⟩ := (ofText?_eq_ok_iff hraw).1 hfirst
        obtain ⟨hall, rfl⟩ := ih.1 hrest
        exact ⟨⟨hindented, hall⟩, rfl⟩
      · rintro ⟨⟨hindented, hall⟩, rfl⟩
        rw [Line.listFrom, (ofText?_eq_ok_iff hraw).2 ⟨hindented, rfl⟩, ih.2 ⟨hall, rfl⟩]
        rfl

/-! ## Lines among others -/

/-- Right after a line another one may stand no deeper than it, or one level deeper in the block that
it opens. -/
def Line.Admits (line next : Line) : Prop :=
  next.depth ≤ line.depth ∨ line.IsOpener ∧ next.depth = line.depth + 1

/-- How deep the line after a line may stand. -/
def Line.reach (line : Line) : Nat := if line.IsOpener then line.depth + 1 else line.depth

/-- How deep the line after all these may stand. -/
def reach (lines : List Line) : Nat := lines.getLast?.elim 0 Line.reach

/-- The lines at a depth that have no shallower line after them. -/
def siblings (depth : Nat) (lines : List Line) : List Line :=
  (lines.rtakeWhile fun line => depth ≤ line.depth).filter fun line => line.depth = depth

/-- No line has the key of a line at its own depth, unless a shallower line stands between them. -/
def Distinct (earlier : List Line) : List Line → Prop
  | [] => True
  | line :: later =>
    (∀ a ∈ siblings line.depth earlier, a.key ≠ line.key) ∧ Distinct (earlier ++ [line]) later

/-- The lines of a text follow the grammar: each is an entry; the first is not indented; every other one
goes at most as deep as the line before it, or one level deeper into the block that this line opens; and
no key comes twice in a block. -/
structure Nested (lines : List Line) : Prop where
  entry : ∀ line ∈ lines, line.IsEntry
  first : ∀ line ∈ lines.head?, line.depth = 0
  next : lines.IsChain Line.Admits
  distinct : Distinct [] lines

theorem siblings_concat (depth : Nat) (lines : List Line) (line : Line) :
    siblings depth (lines ++ [line]) =
      if depth ≤ line.depth then
        siblings depth lines ++ if line.depth = depth then [line] else []
      else [] := by
  unfold siblings
  split
  · next h =>
    rw [List.rtakeWhile_concat_pos _ _ _ (by simpa using h), List.filter_append]
    split
    · next heq => rw [List.filter_cons_of_pos (by simpa using heq), List.filter_nil]
    · next hne => rw [List.filter_cons_of_neg (by simpa using hne), List.filter_nil]
  · next h =>
    rw [List.rtakeWhile_concat_neg _ _ _ (by simpa using h), List.filter_nil]

theorem distinct_concat {earlier lines : List Line} {line : Line} :
    Distinct earlier (lines ++ [line]) ↔
      Distinct earlier lines ∧ ∀ a ∈ siblings line.depth (earlier ++ lines), a.key ≠ line.key := by
  induction lines generalizing earlier with
  | nil =>
    rw [List.append_nil]
    exact and_comm
  | cons a later ih =>
    rw [List.cons_append, Distinct, ih, Distinct, and_assoc, List.append_assoc, List.singleton_append]

theorem Line.le_reach_iff {line : Line} {depth : Nat} :
    depth ≤ line.reach ↔ depth ≤ line.depth ∨ line.IsOpener ∧ depth = line.depth + 1 := by
  unfold reach
  split
  · next h => rw [and_iff_right h, Nat.le_succ_iff]
  · next h =>
    rw [iff_self_or]
    exact fun hopener => absurd hopener.1 h

theorem chain_concat {lines : List Line} {line : Line} :
    ((∀ l ∈ (lines ++ [line]).head?, l.depth = 0) ∧ (lines ++ [line]).IsChain Line.Admits) ↔
      ((∀ l ∈ lines.head?, l.depth = 0) ∧ lines.IsChain Line.Admits) ∧ line.depth ≤ reach lines := by
  rcases List.eq_nil_or_concat' lines with rfl | ⟨before, last, rfl⟩
  · simp [reach]
  · have hreach : reach (before ++ [last]) = last.reach := by
      unfold reach
      rw [List.getLast?_concat]
      rfl
    rw [hreach, Line.le_reach_iff, List.isChain_append]
    simp [and_assoc, Line.Admits]

theorem nested_nil : Nested [] :=
  ⟨fun _ hline => absurd hline List.not_mem_nil, fun _ hline => absurd hline (Option.not_mem_none _),
    .nil, trivial⟩

theorem nested_concat {lines : List Line} {line : Line} :
    Nested (lines ++ [line]) ↔
      Nested lines ∧ line.IsEntry ∧ line.depth ≤ reach lines ∧
        ∀ a ∈ siblings line.depth lines, a.key ≠ line.key := by
  constructor
  · rintro ⟨hentry, hfirst, hnext, hdistinct⟩
    obtain ⟨hentries, hline⟩ := List.forall_mem_append.1 hentry
    obtain ⟨⟨hfirst, hnext⟩, hreach⟩ := chain_concat.1 ⟨hfirst, hnext⟩
    obtain ⟨hdistinct, hnew⟩ := distinct_concat.1 hdistinct
    exact ⟨⟨hentries, hfirst, hnext, hdistinct⟩, hline line List.mem_cons_self, hreach, hnew⟩
  · rintro ⟨⟨hentries, hfirst, hnext, hdistinct⟩, hline, hreach, hnew⟩
    obtain ⟨hfirst, hnext⟩ := chain_concat.2 ⟨⟨hfirst, hnext⟩, hreach⟩
    refine ⟨List.forall_mem_append.2 ⟨hentries, ?_⟩, hfirst, hnext, distinct_concat.2 ⟨hdistinct, hnew⟩⟩
    exact List.forall_mem_singleton.2 hline

/-! ## Texts -/

/-- The lines of a text that are not blank, each with its number and without the white space at its end. -/
def textRows (s : String) : List (List Char × Nat) := solidLines 1 (Text.lineList s.toList)

/-- The same lines without their indentation, each with its depth. -/
def textLines (s : String) : List Line := (textRows s).map Line.measure

/-- The tree of a text is read off the outline of its lines. -/
theorem Tree.read_eq_ok_iff {s : String} {t : Tree} :
    Tree.read s = .ok t ↔ (∀ row ∈ textRows s, IsIndented row.1) ∧
      ∃ o, (textLines s).foldlM Outline.add .empty = .ok o ∧ o.toTree = t := by
  constructor
  · intro h
    obtain ⟨lines, hlines, h⟩ := exists_of_bind_ok h
    obtain ⟨o, hfold, h⟩ := exists_of_bind_ok h
    cases h
    obtain ⟨hindented, rfl⟩ := listFrom_eq_ok_iff.1 hlines
    exact ⟨hindented, o, hfold, rfl⟩
  · rintro ⟨hindented, o, hfold, rfl⟩
    have hlines : Line.listFrom 1 (Text.lineList s.toList) = .ok (textLines s) :=
      listFrom_eq_ok_iff.2 ⟨hindented, rfl⟩
    unfold Tree.read
    rw [hlines]
    dsimp only [bind, Except.bind]
    rw [hfold]
    rfl

/-- The grammar of a metadata text. -/
structure Grammatical (s : String) : Prop where
  indented : ∀ row ∈ textRows s, IsIndented row.1
  nested : Nested (textLines s)

end RecordDesk.Metadata
