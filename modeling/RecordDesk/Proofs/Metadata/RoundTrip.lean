import RecordDesk.Proofs.Metadata.Lists
import RecordDesk.Proofs.Metadata.Outline

/-!
A tree is read back from its text. The text is cut into the lines it was joined from; line by line the
outline then takes in the entries in the order in which they were written, and every block is left
again when the next line of its parent comes.
-/

namespace RecordDesk.Metadata

/-! ## Well-formed trees -/

mutual

/-- Every level of a tree has keys that a line can hold, in ascending order, and every value that is no
tree satisfies `leaf`. -/
def Value.WellFormed (leaf : Value → Prop) : Value → Prop
  | .tree entries => Keyed.Ascending entries ∧ EntriesWellFormed leaf entries
  | v => leaf v

def EntriesWellFormed (leaf : Value → Prop) : List (String × Value) → Prop
  | [] => True
  | (k, v) :: es => IsKey k ∧ v.WellFormed leaf ∧ EntriesWellFormed leaf es

end

def Tree.WellFormed (leaf : Value → Prop) (t : Tree) : Prop := (Value.tree t).WellFormed leaf

mutual

def Value.decidableWellFormed (leaf : Value → Prop) [DecidablePred leaf] :
    (v : Value) → Decidable (v.WellFormed leaf)
  | .tree entries =>
    have := decidableEntriesWellFormed leaf entries
    inferInstanceAs (Decidable (entries.Pairwise (fun a b => a.1 < b.1) ∧ EntriesWellFormed leaf entries))
  | .null => inferInstanceAs (Decidable (leaf .null))
  | .bool b => inferInstanceAs (Decidable (leaf (.bool b)))
  | .int n => inferInstanceAs (Decidable (leaf (.int n)))
  | .real x => inferInstanceAs (Decidable (leaf (.real x)))
  | .text s => inferInstanceAs (Decidable (leaf (.text s)))
  | .list items => inferInstanceAs (Decidable (leaf (.list items)))

def decidableEntriesWellFormed (leaf : Value → Prop) [DecidablePred leaf] :
    (es : List (String × Value)) → Decidable (EntriesWellFormed leaf es)
  | [] => isTrue trivial
  | (k, v) :: es =>
    have := Value.decidableWellFormed leaf v
    have := decidableEntriesWellFormed leaf es
    inferInstanceAs (Decidable (IsKey k ∧ v.WellFormed leaf ∧ EntriesWellFormed leaf es))

end

instance (leaf : Value → Prop) [DecidablePred leaf] (t : Tree) : Decidable (t.WellFormed leaf) :=
  Value.decidableWellFormed leaf (.tree t)

/-- A value is part of another one: of itself, or of the value of an entry. -/
inductive Value.Inside (u : Value) : Value → Prop
  | here : Inside u u
  | entry {e : String × Value} {entries : List (String × Value)} (mem : e ∈ entries)
      (h : Inside u e.2) : Inside u (.tree entries)

theorem entriesWellFormed_iff {leaf : Value → Prop} {es : List (String × Value)} :
    EntriesWellFormed leaf es ↔ ∀ e ∈ es, IsKey e.1 ∧ e.2.WellFormed leaf := by
  induction es with
  | nil => exact ⟨fun _ _ he => absurd he List.not_mem_nil, fun _ => trivial⟩
  | cons e es ih =>
    rw [List.forall_mem_cons, ← ih, and_assoc]
    exact Iff.rfl

theorem Value.WellFormed.inside {leaf : Value → Prop} {u v : Value} (hu : u.Inside v)
    (h : v.WellFormed leaf) : u.WellFormed leaf := by
  induction hu with
  | here => exact h
  | entry mem _ ih => exact ih (entriesWellFormed_iff.1 h.2 _ mem).2

/-! ## Lines -/

mutual

/-- The lines of an entry without their indentation, each with its depth. -/
def entryRows (depth : Nat) (k : String) : Value → List (Nat × List Char)
  | .tree entries => (depth, k.toList ++ [':']) :: entriesRows (depth + 1) entries
  | v => [(depth, k.toList ++ ':' :: ' ' :: valueText v)]

def entriesRows (depth : Nat) : List (String × Value) → List (Nat × List Char)
  | [] => []
  | (k, v) :: es => entryRows depth k v ++ entriesRows depth es

end

def indented (row : Nat × List Char) : List Char := List.replicate (2 * row.1) ' ' ++ row.2

theorem toList_leafLine (depth : Nat) (k text : String) :
    (indentation depth ++ k ++ ": " ++ text).toList =
      indented (depth, k.toList ++ ':' :: ' ' :: text.toList) := by
  unfold indentation indented
  simp only [String.toList_append, String.toList_ofList, List.append_assoc]
  rfl

theorem toList_keyLine (depth : Nat) (k : String) :
    (indentation depth ++ k ++ ":").toList = indented (depth, k.toList ++ [':']) := by
  unfold indentation indented
  simp only [String.toList_append, String.toList_ofList, List.append_assoc]
  rfl

mutual

theorem toList_writeEntry (depth : Nat) (k : String) (v : Value) :
    (writeEntry depth k v).map String.toList = (entryRows depth k v).map indented := by
  cases v with
  | tree entries =>
    unfold writeEntry entryRows
    rw [List.map_cons, List.map_cons, toList_keyLine, toList_writeEntries (depth + 1) entries]
  | _ => exact congrArg (fun line => [line]) (toList_leafLine depth k _)

theorem toList_writeEntries (depth : Nat) (es : List (String × Value)) :
    (writeEntries depth es).map String.toList = (entriesRows depth es).map indented := by
  cases es with
  | nil => rfl
  | cons e es =>
    unfold writeEntries entriesRows
    rw [List.map_append, List.map_append, toList_writeEntry depth e.1 e.2, toList_writeEntries depth es]

end

/-- A row that comes back from its line. -/
structure FitsRow (row : Nat × List Char) : Prop where
  tight : Text.IsTight row.2
  oneLine : '\n' ∉ row.2

theorem fitsRow_key (depth : Nat) {k : String} (hk : IsName k) : FitsRow (depth, k.toList ++ [':']) := by
  refine ⟨hk.isTight.append (Text.isTight_singleton rfl), fun hmem => ?_⟩
  rcases List.mem_append.1 hmem with hmem | hmem
  · exact hk.oneLine hmem
  · cases List.mem_singleton.1 hmem

theorem fitsRow_leaf (depth : Nat) {k : String} (hk : IsName k) {cs : List Char}
    (htight : Text.IsTight cs) (hline : '\n' ∉ cs) : FitsRow (depth, k.toList ++ ':' :: ' ' :: cs) := by
  have hcolon : Text.IsTight (k.toList ++ [':']) := hk.isTight.append (Text.isTight_singleton rfl)
  have hall := hcolon.append_cons ' ' htight
  rw [List.append_assoc, List.singleton_append] at hall
  refine ⟨hall, fun hmem => ?_⟩
  rcases List.mem_append.1 hmem with hmem | hmem
  · exact hk.oneLine hmem
  · rcases List.mem_cons.1 hmem with hmem | hmem
    · cases hmem
    · rcases List.mem_cons.1 hmem with hmem | hmem
      · cases hmem
      · exact hline hmem

/-- The rows of a value come back: on each level there are names before the colons, and a text stands
on one line. -/
def Value.FitsRows : Value → Prop
  | .tree entries => ∀ e ∈ entries, IsName e.1
  | v => Text.IsTight (valueText v) ∧ '\n' ∉ valueText v

theorem Value.WellFormed.fitsRows {leaf : Value → Prop} (hleaf : ∀ v, leaf v → Spells (valueText v) v)
    {v : Value} (h : v.WellFormed leaf) : v.FitsRows := by
  cases v with
  | tree entries => exact fun e he => (entriesWellFormed_iff.1 h.2 e he).1.isName
  | _ => exact ⟨(hleaf _ h).tight, (hleaf _ h).oneLine⟩

mutual

theorem fitsRow_of_mem_entryRows (depth : Nat) {k : String} (hk : IsName k) (v : Value)
    (h : ∀ u : Value, u.Inside v → u.FitsRows) : ∀ row ∈ entryRows depth k v, FitsRow row := by
  intro row hrow
  cases v with
  | tree entries =>
    rcases List.mem_cons.1 hrow with rfl | hrow
    · exact fitsRow_key depth hk
    · exact fitsRow_of_mem_entriesRows (depth + 1) entries (h _ .here)
        (fun e he u hu => h u (.entry he hu)) row hrow
  | _ =>
    obtain ⟨htight, hline⟩ := h _ .here
    rw [List.mem_singleton.1 hrow]
    exact fitsRow_leaf depth hk htight hline

theorem fitsRow_of_mem_entriesRows (depth : Nat) (es : List (String × Value))
    (hnames : ∀ e ∈ es, IsName e.1) (h : ∀ e ∈ es, ∀ u : Value, u.Inside e.2 → u.FitsRows) :
    ∀ row ∈ entriesRows depth es, FitsRow row := by
  intro row hrow
  cases es with
  | nil => cases hrow
  | cons e es =>
    rcases List.mem_append.1 hrow with hrow | hrow
    · exact fitsRow_of_mem_entryRows depth (hnames e List.mem_cons_self) e.2 (h e List.mem_cons_self)
        row hrow
    · exact fitsRow_of_mem_entriesRows depth es (fun d hd => hnames d (List.mem_cons_of_mem e hd))
        (fun d hd => h d (List.mem_cons_of_mem e hd)) row hrow

end

/-! ## Cutting the text -/

/-- Rows as lines, numbered from `number` on. -/
def numbered (number : Nat) : List (Nat × List Char) → List Line
  | [] => []
  | row :: rows => ⟨number, row.1, row.2⟩ :: numbered (number + 1) rows

theorem numbered_append (number : Nat) (rows rows' : List (Nat × List Char)) :
    numbered number (rows ++ rows') = numbered number rows ++ numbered (number + rows.length) rows' := by
  induction rows generalizing number with
  | nil => rfl
  | cons row rows ih =>
    rw [List.cons_append, numbered, numbered, ih, List.length_cons, List.cons_append,
      Nat.add_right_comm, Nat.add_assoc]

theorem getLast?_indented {row : Nat × List Char} (h : FitsRow row) :
    ∃ c, (indented row).getLast? = some c ∧ Text.isBlank c = false := by
  obtain ⟨c, hc, hblank⟩ := h.tight.last
  refine ⟨c, ?_, hblank⟩
  unfold indented
  rw [List.getLast?_append, hc]
  rfl

theorem not_mem_indented {row : Nat × List Char} (h : FitsRow row) : '\n' ∉ indented row := by
  intro hmem
  rcases List.mem_append.1 hmem with hmem | hmem
  · cases List.eq_of_mem_replicate hmem
  · exact h.oneLine hmem

/-- Indentation is measured as it was written. -/
theorem ofText?_indented {row : Nat × List Char} (h : FitsRow row) (number : Nat) :
    Line.ofText? number (indented row) = .ok (some ⟨number, row.1, row.2⟩) := by
  obtain ⟨depth, content⟩ := row
  obtain ⟨c, rest, hcontent, hblank⟩ := h.tight.exists_cons
  have hend := Text.trimmedEnd_of_last (getLast?_indented h)
  have hspaces : ∀ d ∈ List.replicate (2 * depth) ' ', (d == ' ') = true := by
    intro d hd
    rw [List.eq_of_mem_replicate hd]
    rfl
  have hspace : (c == ' ') = false := by
    rw [beq_eq_false_iff_ne]
    rintro rfl
    cases hblank
  have htab : c ≠ '\t' := by
    rintro rfl
    cases hblank
  dsimp only at hcontent
  subst hcontent
  have hdrop : (indented (depth, c :: rest)).dropWhile (· == ' ') = c :: rest := by
    unfold indented
    rw [List.dropWhile_append_of_pos hspaces]
    exact List.dropWhile_cons_of_neg (by simp [hspace])
  have htake : (indented (depth, c :: rest)).takeWhile (· == ' ') = List.replicate (2 * depth) ' ' := by
    unfold indented
    rw [List.takeWhile_append_of_pos hspaces, List.takeWhile_cons_of_neg (by simp [hspace]),
      List.append_nil]
  unfold Line.ofText?
  dsimp only
  rw [hend, hdrop, htake, List.length_replicate]
  dsimp only
  rw [if_neg htab, if_neg (by omega), Nat.mul_div_cancel_left depth (by decide)]

theorem listFrom_indented {rows : List (Nat × List Char)} (h : ∀ row ∈ rows, FitsRow row)
    (number : Nat) : Line.listFrom number (rows.map indented) = .ok (numbered number rows) := by
  induction rows generalizing number with
  | nil => rfl
  | cons row rows ih =>
    rw [List.map_cons, Line.listFrom, ofText?_indented (h row List.mem_cons_self),
      ih (fun r hr => h r (List.mem_cons_of_mem row hr))]
    rfl

theorem toList_write (t : Tree) : t.write.toList = Text.joinLines ((entriesRows 0 t).map indented) := by
  unfold Tree.write Text.joinLines
  rw [String.toList_join, ← toList_writeEntries, List.flatMap_map, List.flatMap_map]
  simp only [String.toList_append]
  rfl

theorem lineList_write {t : Tree} (h : ∀ row ∈ entriesRows 0 t, FitsRow row) :
    Text.lineList t.write.toList = (entriesRows 0 t).map indented := by
  rw [toList_write]
  apply Text.lineList_joinLines
  · intro line hline
    obtain ⟨row, hrow, rfl⟩ := List.mem_map.1 hline
    exact not_mem_indented (h row hrow)
  · intro line hline
    obtain ⟨row, hrow, rfl⟩ := List.mem_map.1 hline
    exact getLast?_indented (h row hrow)

/-- Reading the text of a tree whose rows come back is taking them in. -/
theorem read_write_eq {t : Tree} (h : ∀ u : Value, u.Inside (.tree t) → u.FitsRows) :
    Tree.read t.write =
      ((numbered 1 (entriesRows 0 t)).foldlM Outline.add .empty).map Outline.toTree := by
  have hrows : ∀ row ∈ entriesRows 0 t, FitsRow row :=
    fitsRow_of_mem_entriesRows 0 t (h _ .here) fun e he u hu => h u (.entry he hu)
  unfold Tree.read
  rw [lineList_write hrows, listFrom_indented hrows]
  show ((numbered 1 (entriesRows 0 t)).foldlM Outline.add .empty).bind (fun o => .ok o.toTree) = _
  cases (numbered 1 (entriesRows 0 t)).foldlM Outline.add .empty with
  | error e => rfl
  | ok o => rfl

/-! ## Taking in the entries -/

theorem read_leafRow {leaf : Value → Prop} (hleaf : ∀ v, leaf v → Spells (valueText v) v) {k : String}
    (hk : IsKey k) {v : Value} (h : leaf v) {o : Outline} {ps : List (String × Tree)} {done : Tree}
    (hat : o.StandsAt ps done) (habove : ∀ e ∈ done, e.1 < k) (number : Nat) :
    ∃ o', (numbered number [(ps.length, k.toList ++ ':' :: ' ' :: valueText v)]).foldlM Outline.add o =
        .ok o' ∧ o'.StandsAt ps (done ++ [(k, v)]) := by
  have hspells := hleaf v h
  refine ⟨⟨ps, done ++ [(k, v)]⟩, ?_, Outline.standsAt_self _ _⟩
  show (o.add ⟨number, ps.length, k.toList ++ ':' :: ' ' :: valueText v⟩).bind .ok = _
  rw [Outline.add_value hat hk habove hspells.tight hspells.reads]
  rfl

mutual

/-- The lines of an entry add the entry to the level on which the outline stands. -/
theorem read_entryRows {leaf : Value → Prop} (hleaf : ∀ v, leaf v → Spells (valueText v) v) {k : String}
    (hk : IsKey k) (v : Value) (h : v.WellFormed leaf) {o : Outline} {ps : List (String × Tree)}
    {done : Tree} (hat : o.StandsAt ps done) (habove : ∀ e ∈ done, e.1 < k) (number : Nat) :
    ∃ o', (numbered number (entryRows ps.length k v)).foldlM Outline.add o = .ok o' ∧
      o'.StandsAt ps (done ++ [(k, v)]) := by
  cases v with
  | tree entries =>
    -- The key opens a block, its lines fill it, and leaving it puts the tree under the key.
    obtain ⟨o', hread, hat'⟩ := read_entriesRows hleaf entries h.2 h.1
      (Outline.standsAt_self ((k, done) :: ps) []) (fun e he => by cases he) (number + 1)
    have hleave := hat'.leave
    rw [List.nil_append, Keyed.insert_of_above habove] at hleave
    refine ⟨o', ?_, hleave⟩
    show (o.add ⟨number, ps.length, k.toList ++ [':']⟩).bind
      (fun o => (numbered (number + 1) (entriesRows (ps.length + 1) entries)).foldlM Outline.add o) = _
    rw [Outline.add_key hat hk habove]
    exact hread
  | _ => exact read_leafRow hleaf hk h hat habove number

theorem read_entriesRows {leaf : Value → Prop} (hleaf : ∀ v, leaf v → Spells (valueText v) v)
    (es : List (String × Value)) (h : EntriesWellFormed leaf es) (hasc : Keyed.Ascending es) {o : Outline}
    {ps : List (String × Tree)} {done : Tree} (hat : o.StandsAt ps done)
    (habove : ∀ d ∈ done, ∀ e ∈ es, d.1 < e.1) (number : Nat) :
    ∃ o', (numbered number (entriesRows ps.length es)).foldlM Outline.add o = .ok o' ∧
      o'.StandsAt ps (done ++ es) := by
  cases es with
  | nil => exact ⟨o, rfl, by rw [List.append_nil]; exact hat⟩
  | cons e es =>
    obtain ⟨hk, hv, hes⟩ := h
    obtain ⟨hfirst, hrest⟩ := List.pairwise_cons.1 hasc
    obtain ⟨o', hread, hat'⟩ := read_entryRows hleaf hk e.2 hv hat
      (fun d hd => habove d hd e List.mem_cons_self) number
    have habove' : ∀ d ∈ done ++ [e], ∀ e' ∈ es, d.1 < e'.1 := by
      intro d hd e' he'
      rcases List.mem_append.1 hd with hd | hd
      · exact habove d hd e' (List.mem_cons_of_mem e he')
      · rw [List.mem_singleton.1 hd]
        exact hfirst e' he'
    obtain ⟨o'', hread', hat''⟩ := read_entriesRows hleaf es hes hrest hat' habove'
      (number + (entryRows ps.length e.1 e.2).length)
    refine ⟨o'', ?_, ?_⟩
    · show (numbered number (entryRows ps.length e.1 e.2 ++ entriesRows ps.length es)).foldlM
        Outline.add o = _
      rw [numbered_append, List.foldlM_append, hread]
      exact hread'
    · rw [List.append_assoc] at hat''
      exact hat''

end

/-! ## Round trip -/

/-- Whatever the values that are no trees may be: if each has a text that gives it back, the tree has
one, too. -/
theorem Tree.read_write_of_spells {leaf : Value → Prop} (hleaf : ∀ v, leaf v → Spells (valueText v) v)
    {t : Tree} (h : t.WellFormed leaf) : Tree.read t.write = .ok t := by
  have hrows (u : Value) (hu : u.Inside (.tree t)) : u.FitsRows :=
    (Value.WellFormed.inside hu h).fitsRows hleaf
  obtain ⟨hasc, hentries⟩ := h
  obtain ⟨o, hread, hat⟩ := read_entriesRows hleaf t hentries hasc (Outline.standsAt_self [] [])
    (fun d hd => by cases hd) 1
  have hread' : (numbered 1 (entriesRows 0 t)).foldlM Outline.add .empty = .ok o := hread
  have htree : o.toTree = t := congrArg Outline.entries hat.closes
  rw [read_write_eq hrows, hread', ← htree]
  rfl

/-- Trees survive printing: with keys and texts that fit on their lines, finite reals and lists of
scalars without quotes, reading the text of a tree gives the tree. -/
theorem Tree.read_write {t : Tree} (h : t.WellFormed Value.FitsEntry) : Tree.read t.write = .ok t :=
  Tree.read_write_of_spells (fun _ => spells_valueText) h

/-- Blocks, an empty block, a real, and texts that look like something else. -/
def sampleTree : Tree :=
  [("block", .tree [("deep", .tree []), ("said", .text "\"it's\""), ("word", .text "Null")]),
    ("list", .list [.int (-5), .text " true ", .text "a, b]", .null, .text "12"]),
    ("none", .list []),
    ("ratio", .real ⟨0x3FB999999999999A⟩),
    ("text", .text "[not: a list]")]

theorem read_write_sampleTree :
    sampleTree.WellFormed Value.FitsEntry ∧ Tree.read sampleTree.write = .ok sampleTree :=
  ⟨by decide, Tree.read_write (by decide)⟩

end RecordDesk.Metadata
