import RecordDesk.Proofs.Metadata.Lists

/-!
Items that do not keep apart do not come back. Wherever the reader cuts the text of a list, a piece
has as many commas of its own as the text of the item that it gives. So the pieces that give the items
can only be their texts, and the cuts only the commas that the printer put between them.
-/

namespace RecordDesk.Metadata

/-! ## Where a list is cut -/

/-- The first piece is the whole text, or ends at a comma outside quotes. -/
theorem splitItems_eq_cons {quote : Option Char} {cs p : List Char} {ps : List (List Char)}
    (h : splitItems quote cs = p :: ps) :
    (cs = p ∧ ps = [] ∧ Unsplit quote p) ∨
      ∃ rest, cs = p ++ ',' :: rest ∧ Unsplit quote p ∧ p.foldl quoteAfter quote = none ∧
        ps = splitItems none rest := by
  induction cs generalizing quote p with
  | nil =>
    cases h
    exact .inl ⟨rfl, rfl, trivial⟩
  | cons c cs ih =>
    rw [splitItems_cons] at h
    split at h
    · next hcut =>
      obtain ⟨rfl, rfl⟩ := hcut
      cases h
      exact .inr ⟨cs, rfl, trivial, rfl, rfl⟩
    · next hcut =>
      cases hrest : splitItems (quoteAfter quote c) cs with
      | nil => exact absurd hrest (splitItems_ne_nil _ cs)
      | cons item items =>
        rw [hrest] at h
        cases h
        rcases ih hrest with ⟨rfl, rfl, hunsplit⟩ | ⟨rest, rfl, hunsplit, hcloses, rfl⟩
        · exact .inl ⟨rfl, rfl, hcut, hunsplit⟩
        · exact .inr ⟨rest, rfl, ⟨hcut, hunsplit⟩, hcloses, rfl⟩

/-- Of two ways to cut a text at a comma, those with as many commas before it are the same. -/
theorem eq_of_count_eq {cs ds rest rest' : List Char} (h : cs ++ ',' :: rest = ds ++ ',' :: rest')
    (hcount : cs.count ',' = ds.count ',') : cs = ds ∧ rest = rest' := by
  induction cs generalizing ds with
  | nil =>
    cases ds with
    | nil => exact ⟨rfl, List.tail_eq_of_cons_eq h⟩
    | cons d ds =>
      rw [← List.head_eq_of_cons_eq h, List.count_cons_self] at hcount
      cases hcount
  | cons c cs ih =>
    cases ds with
    | nil =>
      rw [List.head_eq_of_cons_eq h, List.count_cons_self] at hcount
      cases hcount
    | cons d ds =>
      obtain rfl : c = d := List.head_eq_of_cons_eq h
      obtain ⟨rfl, rfl⟩ := ih (List.tail_eq_of_cons_eq h) (by simpa [List.count_cons] using hcount)
      exact ⟨rfl, rfl⟩

/-! ## The commas of an item -/

theorem not_mem_of_isBareChar {cs : List Char} (h : ∀ c ∈ cs, isBareChar c = true) : ',' ∉ cs :=
  fun hmem => Bool.false_ne_true (h ',' hmem)

/-- Quotes add no commas. -/
theorem count_comma_quoted {q : Char} (hq : q = '"' ∨ q = '\'') (cs : List Char) :
    (q :: (cs ++ [q])).count ',' = cs.count ',' := by
  have hne : q ≠ ',' := by
    rcases hq with rfl | rfl
    · decide
    · decide
  rw [List.count_cons_of_ne hne, List.count_append, List.count_singleton, if_neg (by simpa using hne),
    Nat.add_zero]

theorem count_comma_text (s : String) : (itemText (.text s)).count ',' = s.toList.count ',' := by
  show (if needsQuotes true s then quote s else s).toList.count ',' = _
  cases needsQuotes true s with
  | false => rfl
  | true =>
    obtain ⟨q, hq, heq, -⟩ := exists_quote_eq s
    rw [if_pos rfl, heq, String.toList_ofList, count_comma_quoted hq]

theorem count_comma_of_bare {v : Value} (h : v.FitsLine) (hv : ∀ s, v ≠ .text s) :
    (itemText v).count ',' = 0 :=
  List.count_eq_zero.2 (not_mem_of_isBareChar (writeScalar_bare true h hv).2)

/-- A token has as many commas as the text that its value is written as. -/
theorem count_comma_readScalar (token : String) :
    (itemText (readScalar token)).count ',' = token.toList.count ',' := by
  rcases readScalar_cases token with hword | hnumber | ⟨inner, hquoted, hread⟩ | hread
  · have hno : ',' ∉ token.toList := by
      intro hmem
      rw [readWord?_eq_none hmem rfl] at hword
      cases hword
    rw [List.count_eq_zero.2 hno]
    rcases cases_of_readWord? hword with hv | ⟨b, hv⟩
    · rw [hv]
      exact count_comma_of_bare trivial fun s => nofun
    · rw [hv]
      exact count_comma_of_bare trivial fun s => nofun
  · have hno : ',' ∉ token.toList := by
      intro hmem
      rw [readNumber?_eq_none hmem rfl] at hnumber
      cases hnumber
    rw [List.count_eq_zero.2 hno]
    rcases cases_of_readNumber? hnumber with ⟨n, hv⟩ | ⟨x, hv, hfin⟩
    · rw [hv]
      exact count_comma_of_bare trivial fun s => nofun
    · rw [hv]
      exact count_comma_of_bare hfin fun s => nofun
  · obtain ⟨q, hq, heq⟩ := eq_of_unquoted? hquoted
    rw [hread, count_comma_text, String.toList_ofList, heq, count_comma_quoted hq]
  · rw [hread, count_comma_text]

theorem count_comma_trimmed (cs : List Char) : (Text.trimmed cs).count ',' = cs.count ',' := by
  have hdrop (ds : List Char) : (ds.dropWhile Text.isBlank).count ',' = ds.count ',' := by
    have hblank : ',' ∉ ds.takeWhile Text.isBlank := by
      intro hmem
      have hcomma := List.all_eq_true.1 (List.all_takeWhile (l := ds)) ',' hmem
      revert hcomma
      decide
    conv => rhs; rw [← List.takeWhile_append_dropWhile (p := Text.isBlank) (l := ds)]
    rw [List.count_append, List.count_eq_zero.2 hblank, Nat.zero_add]
  unfold Text.trimmed Text.trimmedEnd Text.dropEndWhile Text.trimmedStart
  rw [List.count_reverse, hdrop, List.count_reverse, hdrop]

theorem eq_of_readItem {cs : List Char} {v : Value} (h : readItem cs = .ok v) :
    v = readScalar (.ofList (Text.trimmed cs)) := by
  unfold readItem at h
  split at h
  · cases h
  · next c rest htrim =>
    split at h
    · cases h
    · cases h
      rw [htrim]

/-- A piece has as many commas as the text of the item that it gives. -/
theorem count_comma_of_readItem {cs : List Char} {v : Value} (h : readItem cs = .ok v) :
    cs.count ',' = (itemText v).count ',' := by
  rw [eq_of_readItem h, count_comma_readScalar, String.toList_ofList, count_comma_trimmed]

/-! ## Lists -/

theorem mapM_readItem_cons {p : List Char} {ps : List (List Char)} {items : List Value}
    (h : (p :: ps).mapM readItem = .ok items) :
    ∃ v vs, items = v :: vs ∧ readItem p = .ok v ∧ ps.mapM readItem = .ok vs := by
  rw [List.mapM_cons] at h
  obtain ⟨v, hp, h⟩ := exists_of_bind_ok h
  obtain ⟨vs, hps, h⟩ := exists_of_bind_ok h
  cases h
  exact ⟨v, vs, rfl, hp, hps⟩

/-- A space in front of the first item makes no difference. -/
theorem apart_of_space {item : List Char} {items : List (List Char)}
    (h : Apart ((' ' :: item) :: items)) : Apart (item :: items) := by
  cases items with
  | nil => exact h.2
  | cons next items => exact ⟨⟨h.1.unsplit.2, h.1.closes⟩, h.2⟩

theorem cons_intercalate (c : Char) (sep item : List Char) (items : List (List Char)) :
    c :: sep.intercalate (item :: items) = sep.intercalate ((c :: item) :: items) := by
  cases items with
  | nil => rfl
  | cons next items => rfl

/-- If the pieces of a text give the items from which it was joined, these keep apart in it. The first
item may have been written in any way that has as many commas. -/
theorem apart_of_mapM {w : List Char} {v : Value} {vs : List Value}
    (hcount : w.count ',' = (itemText v).count ',')
    (h : (splitItems none ([',', ' '].intercalate (w :: vs.map itemText))).mapM readItem =
      .ok (v :: vs)) : Apart (w :: vs.map itemText) := by
  induction vs generalizing w v with
  | nil =>
    rw [List.map_nil, List.intercalate_singleton] at h
    cases hsplit : splitItems none w with
    | nil => exact absurd hsplit (splitItems_ne_nil none w)
    | cons p ps =>
      rw [hsplit] at h
      obtain ⟨_, _, heq, -, hps⟩ := mapM_readItem_cons h
      cases heq
      rcases splitItems_eq_cons hsplit with ⟨rfl, -, hunsplit⟩ | ⟨rest, -, -, -, rfl⟩
      · exact hunsplit
      · -- One more piece would give one more item.
        cases hrest : splitItems none rest with
        | nil => exact absurd hrest (splitItems_ne_nil none rest)
        | cons q qs =>
          rw [hrest] at hps
          obtain ⟨_, _, hnil, -, -⟩ := mapM_readItem_cons hps
          cases hnil
  | cons u vs ih =>
    rw [List.map_cons, List.intercalate_cons_cons, List.append_assoc] at h
    generalize hrest : [',', ' '].intercalate (itemText u :: vs.map itemText) = rest at h
    cases hsplit : splitItems none (w ++ ([',', ' '] ++ rest)) with
    | nil => exact absurd hsplit (splitItems_ne_nil none _)
    | cons p ps =>
      rw [hsplit] at h
      obtain ⟨_, _, heq, hp, hps⟩ := mapM_readItem_cons h
      cases heq
      rcases splitItems_eq_cons hsplit with ⟨-, rfl, -⟩ | ⟨after, htext, hunsplit, hcloses, rfl⟩
      · cases hps
      · -- The piece has as many commas as what was written for the item, so it is that.
        have htext : w ++ ',' :: ' ' :: rest = p ++ ',' :: after := htext
        obtain ⟨rfl, hafter⟩ := eq_of_count_eq htext (hcount.trans (count_comma_of_readItem hp).symm)
        have hspace : (' ' :: itemText u).count ',' = (itemText u).count ',' :=
          List.count_cons_of_ne (by decide)
        rw [← hafter, ← hrest, cons_intercalate] at hps
        exact ⟨⟨hunsplit, hcloses⟩, apart_of_space (ih hspace hps)⟩

/-- A list that comes back from its text is one whose items keep apart in it. -/
theorem apart_of_readValue {items : List Value}
    (h : readValue (writeList items).toList = .ok (.list items)) : Apart (items.map itemText) := by
  cases items with
  | nil => trivial
  | cons v vs =>
    rw [readValue_writeList] at h
    unfold readItems at h
    split at h
    · cases h
    · obtain ⟨items, hread, h⟩ := exists_of_bind_ok h
      cases h
      exact apart_of_mapM rfl hread

end RecordDesk.Metadata
