import RecordDesk.Proofs.Metadata.Regular

/-!
Which trees come back from their text. Whatever tree a text gives, printing and reading it again may
merge the items of a list or refuse a key, and does so in no other case than those two: an item leaves
open a quote of its own, or a key begins like an item of a list (`Tree.read_write_of_read`).
-/

namespace RecordDesk.Metadata

/-- Nothing in the text of the value is mistaken for something else: no key begins like an item of a
list, and the items of a list keep apart. -/
def Value.Unmistakable : Value → Prop
  | .tree entries => ∀ e ∈ entries, ¬ ['-', ' '] <+: e.1.toList
  | .list items => Apart (items.map itemText)
  | _ => True

/-- The value is read from its own text. -/
def Value.Returns (v : Value) : Prop := readValue (valueText v) = .ok v

/-! ## Sufficient -/

mutual

theorem Value.wellFormed_of_unmistakable (v : Value)
    (h : ∀ u : Value, u.Inside v → u.Plain ∧ u.Unmistakable) : v.WellFormed Value.Survives := by
  obtain ⟨hplain, hclear⟩ := h v .here
  cases v with
  | tree entries =>
    have hkeys : ∀ e ∈ entries, IsKey e.1 := fun e he => (hplain.2 e he).isKey (hclear e he)
    exact ⟨hplain.1, entriesWellFormed_of_unmistakable entries hkeys fun e he u hu => h u (.entry he hu)⟩
  | list items => exact ⟨hplain, hclear⟩
  | _ => exact hplain

theorem entriesWellFormed_of_unmistakable (es : List (String × Value)) (hkeys : ∀ e ∈ es, IsKey e.1)
    (h : ∀ e ∈ es, ∀ u : Value, u.Inside e.2 → u.Plain ∧ u.Unmistakable) :
    EntriesWellFormed Value.Survives es := by
  cases es with
  | nil => trivial
  | cons e es =>
    exact ⟨hkeys e List.mem_cons_self, Value.wellFormed_of_unmistakable e.2 (h e List.mem_cons_self),
      entriesWellFormed_of_unmistakable es (fun d hd => hkeys d (List.mem_cons_of_mem e hd))
        fun d hd => h d (List.mem_cons_of_mem e hd)⟩

end

/-! ## Necessary -/

theorem returns_of_leafRow {k : String} (hk : IsName k) {cs : List Char} (htight : Text.IsTight cs)
    {o o' : Outline} {ps : List (String × Tree)} {done : Tree} (hat : o.StandsAt ps done)
    (habove : ∀ e ∈ done, e.1 < k) {number : Nat}
    (h : (numbered number [(ps.length, k.toList ++ ':' :: ' ' :: cs)]).foldlM Outline.add o = .ok o') :
    IsKey k ∧ ∃ v, readValue cs = .ok v ∧ o'.StandsAt ps (done ++ [(k, v)]) := by
  obtain ⟨o'', hadd, h⟩ := exists_of_bind_ok h
  cases h
  have hkey := Outline.isKey_of_add hat hk hadd
  rw [Outline.add_value_eq hat hkey habove htight] at hadd
  obtain ⟨v, hread, rfl⟩ := exists_of_map_ok (ok_of_mapError_ok hadd)
  exact ⟨hkey, v, hread, Outline.standsAt_self _ _⟩

mutual

/-- If the lines of an entry are taken in, they add some value under its key. It is the value of the
entry only if all parts of that return. -/
theorem returns_of_entryRows {k : String} (hk : IsName k) (v : Value) (hv : v.Regular) {o o' : Outline}
    {ps : List (String × Tree)} {done : Tree} (hat : o.StandsAt ps done) (habove : ∀ e ∈ done, e.1 < k)
    {number : Nat} (h : (numbered number (entryRows ps.length k v)).foldlM Outline.add o = .ok o') :
    IsKey k ∧ ∃ v', o'.StandsAt ps (done ++ [(k, v')]) ∧ (v' = v → v.WellFormed Value.Returns) := by
  cases v with
  | tree entries =>
    obtain ⟨o'', hadd, h⟩ := exists_of_bind_ok h
    have hkey := Outline.isKey_of_add hat hk hadd
    rw [Outline.add_key hat hkey habove] at hadd
    cases hadd
    obtain ⟨hasc, hnames⟩ := hv _ .here
    obtain ⟨entries', hat', hreturns⟩ := returns_of_entriesRows entries hasc hnames
      (fun e he u hu => hv u (.entry he hu)) (Outline.standsAt_self ((k, done) :: ps) [])
      (fun d hd => absurd hd List.not_mem_nil) h
    have hleave := hat'.leave
    rw [List.nil_append, Keyed.insert_of_above habove] at hleave
    refine ⟨hkey, .tree entries', hleave, fun heq => ⟨hasc, hreturns ?_⟩⟩
    cases heq
    rfl
  | _ =>
    obtain ⟨htight, -⟩ := (hv _ .here).fitsRows
    obtain ⟨hkey, v', hread, hat'⟩ := returns_of_leafRow hk htight hat habove h
    refine ⟨hkey, v', hat', ?_⟩
    rintro rfl
    exact hread

theorem returns_of_entriesRows (es : List (String × Value)) (hasc : Keyed.Ascending es)
    (hnames : ∀ e ∈ es, IsName e.1) (hes : ∀ e ∈ es, e.2.Regular) {o o' : Outline}
    {ps : List (String × Tree)} {done : Tree} (hat : o.StandsAt ps done)
    (habove : ∀ d ∈ done, ∀ e ∈ es, d.1 < e.1) {number : Nat}
    (h : (numbered number (entriesRows ps.length es)).foldlM Outline.add o = .ok o') :
    ∃ es', o'.StandsAt ps (done ++ es') ∧ (es' = es → EntriesWellFormed Value.Returns es) := by
  cases es with
  | nil =>
    cases h
    exact ⟨[], by rw [List.append_nil]; exact hat, fun _ => trivial⟩
  | cons e es =>
    obtain ⟨hfirst, hrest⟩ := List.pairwise_cons.1 hasc
    change (numbered number (entryRows ps.length e.1 e.2 ++ entriesRows ps.length es)).foldlM
      Outline.add o = .ok o' at h
    rw [numbered_append, List.foldlM_append] at h
    obtain ⟨o'', hentry, h⟩ := exists_of_bind_ok h
    obtain ⟨hkey, v, hat', hreturns⟩ := returns_of_entryRows (hnames e List.mem_cons_self) e.2
      (hes e List.mem_cons_self) hat (fun d hd => habove d hd e List.mem_cons_self) hentry
    have habove' : ∀ d ∈ done ++ [(e.1, v)], ∀ e' ∈ es, d.1 < e'.1 := by
      intro d hd e' he'
      rcases List.mem_append.1 hd with hd | hd
      · exact habove d hd e' (List.mem_cons_of_mem e he')
      · rw [List.mem_singleton.1 hd]
        exact hfirst e' he'
    obtain ⟨es', hat'', hreturns'⟩ := returns_of_entriesRows es hrest
      (fun d hd => hnames d (List.mem_cons_of_mem e hd)) (fun d hd => hes d (List.mem_cons_of_mem e hd))
      hat' habove' h
    rw [List.append_assoc] at hat''
    refine ⟨(e.1, v) :: es', hat'', fun heq => ?_⟩
    obtain ⟨he, hes'⟩ := List.cons.inj heq
    exact ⟨hkey, hreturns (congrArg Prod.snd he), hreturns' hes'⟩

end

/-- A regular tree that comes back from its text does so part by part. -/
theorem Tree.wellFormed_of_read_write {t : Tree} (ht : (Value.tree t).Regular)
    (h : Tree.read t.write = .ok t) : t.WellFormed Value.Returns := by
  rw [read_write_eq fun u hu => (ht u hu).fitsRows] at h
  obtain ⟨o, hfold, hsame⟩ := exists_of_map_ok h
  obtain ⟨hasc, hnames⟩ := ht _ .here
  obtain ⟨es, hat, hreturns⟩ := returns_of_entriesRows t hasc hnames
    (fun e he u hu => ht u (.entry he hu)) (Outline.standsAt_self [] [])
    (fun d hd => absurd hd List.not_mem_nil) hfold
  have htree : o.toTree = es := congrArg Outline.entries hat.closes
  exact ⟨hasc, hreturns (htree.symm.trans hsame)⟩

theorem Value.WellFormed.unmistakable {leaf : Value → Prop}
    (hleaf : ∀ items, leaf (.list items) → Apart (items.map itemText)) {v : Value}
    (h : v.WellFormed leaf) : v.Unmistakable := by
  cases v with
  | tree entries => exact fun e he => (entriesWellFormed_iff.1 h.2 e he).1.no_item
  | list items => exact hleaf items h
  | _ => trivial

/-! ## Round trip -/

theorem Tree.unmistakable_of_survives {t : Tree} (h : t.WellFormed Value.Survives) (v : Value)
    (hv : v.Inside (.tree t)) : v.Unmistakable :=
  (Value.WellFormed.inside hv h).unmistakable fun _ => And.right

theorem Tree.survives_of_unmistakable {t : Tree} (ht : (Value.tree t).Regular)
    (h : ∀ v : Value, v.Inside (.tree t) → v.Unmistakable) : t.WellFormed Value.Survives :=
  Value.wellFormed_of_unmistakable (.tree t) fun v hv => ⟨ht v hv, h v hv⟩

theorem Tree.read_write_of_survives {t : Tree} (h : t.WellFormed Value.Survives) :
    Tree.read t.write = .ok t :=
  Tree.read_write_of_spells (fun _ => spells_of_survives) h

/-- A tree comes back from its text if and only if it is well-formed and its lists keep their items
apart. -/
theorem Tree.read_write_iff {t : Tree} : Tree.read t.write = .ok t ↔ t.WellFormed Value.Survives := by
  constructor
  · intro h
    have ht := regular_of_read h
    refine Tree.survives_of_unmistakable ht fun v hv => ?_
    have hreturns := Value.WellFormed.inside hv (Tree.wellFormed_of_read_write ht h)
    exact hreturns.unmistakable fun _ => apart_of_readValue
  · exact Tree.read_write_of_survives

/-- The text of the tree that a text gives. -/
def normalize (s : String) : Except LineError String := (Tree.read s).map Tree.write

/-- A tree that was read from a text comes back from its own text if and only if none of its keys
begins like an item of a list and the items of each of its lists keep apart. Its text is then a normal
form. -/
theorem Tree.read_write_of_read {s : String} {t : Tree} (h : Tree.read s = .ok t) :
    (Tree.read t.write = .ok t ↔ ∀ v : Value, v.Inside (.tree t) → v.Unmistakable) ∧
      ((∀ v : Value, v.Inside (.tree t) → v.Unmistakable) →
        normalize s = .ok t.write ∧ normalize t.write = .ok t.write) := by
  have ht := regular_of_read h
  refine ⟨⟨fun hback => ?_, fun hclear => ?_⟩, fun hclear => ?_⟩
  · exact Tree.unmistakable_of_survives (Tree.read_write_iff.1 hback)
  · exact Tree.read_write_of_survives (Tree.survives_of_unmistakable ht hclear)
  · have hback := Tree.read_write_of_survives (Tree.survives_of_unmistakable ht hclear)
    unfold normalize
    rw [h, hback]
    exact ⟨rfl, rfl⟩

/-- A lone quote does no harm at the end of a list. -/
theorem read_write_quoteLast :
    let t : Tree := [("k", .list [.text "b", .text "it's"])]
    Tree.read "k: [b, \"it's\"]" = .ok t ∧ Tree.read t.write = .ok t ∧
      normalize t.write = .ok t.write := by
  intro t
  have hread : Tree.read "k: [b, \"it's\"]" = .ok t := by decide +kernel
  have hclear := Tree.unmistakable_of_survives (t := t) (by decide +kernel)
  obtain ⟨hback, hnormal⟩ := Tree.read_write_of_read hread
  exact ⟨hread, hback.2 hclear, (hnormal hclear).2⟩

/-- In front of another item it takes in the comma, and two items become one. -/
theorem read_write_quoteFirst_ne :
    let t : Tree := [("k", .list [.text "it's", .text "b"])]
    Tree.read "k: [\"it's\", b]" = .ok t ∧ Tree.read t.write = .ok [("k", .list [.text "it's, b"])] ∧
      Tree.read t.write ≠ .ok t ∧ normalize t.write ≠ .ok t.write := by
  intro t
  have hread : Tree.read "k: [\"it's\", b]" = .ok t := by decide +kernel
  have hwrite : t.write = "k: [it's, b]\n" := by decide +kernel
  have hback : Tree.read t.write = .ok [("k", .list [.text "it's, b"])] := by
    rw [hwrite]
    decide +kernel
  have hwrite' : Tree.write [("k", .list [.text "it's, b"])] = "k: [\"it's, b\"]\n" := by
    decide +kernel
  refine ⟨hread, hback, ?_, ?_⟩
  · rw [hback]
    simp [t]
  · unfold normalize
    rw [hback, hwrite]
    show Except.ok (Tree.write [("k", .list [.text "it's, b"])]) ≠ _
    rw [hwrite', ne_eq, Except.ok.injEq]
    decide

end RecordDesk.Metadata
