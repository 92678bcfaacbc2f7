import RecordDesk.Metadata.Reader
import RecordDesk.Proofs.Metadata.Scalars

/-!
Lists of scalars are read back from their line when the commas between the items are the only ones
outside quotes (`Apart`). So it is where no item holds a quote of its own.
-/

namespace RecordDesk.Metadata

/-! ## Commas and quotes -/

/-- The quote that is open after a character. -/
def quoteAfter (quote : Option Char) (c : Char) : Option Char :=
  match quote with
  | none => if c = '"' ∨ c = '\'' then some c else none
  | some q => if c = q then none else some q

/-- Every comma of the text stands inside quotes. -/
def Unsplit (quote : Option Char) : List Char → Prop
  | [] => True
  | c :: cs => ¬ (quote = none ∧ c = ',') ∧ Unsplit (quoteAfter quote c) cs

instance decidableUnsplit : (quote : Option Char) → (cs : List Char) → Decidable (Unsplit quote cs)
  | _, [] => isTrue trivial
  | quote, c :: cs =>
    have := decidableUnsplit (quoteAfter quote c) cs
    inferInstanceAs (Decidable (¬ (quote = none ∧ c = ',') ∧ Unsplit (quoteAfter quote c) cs))

/-- A text put in front of the first item. -/
def prepend (cs : List Char) : List (List Char) → List (List Char)
  | [] => [cs]
  | item :: items => (cs ++ item) :: items

theorem splitItems_cons (quote : Option Char) (c : Char) (cs : List Char) :
    splitItems quote (c :: cs) =
      if quote = none ∧ c = ',' then [] :: splitItems none cs
      else prepend [c] (splitItems (quoteAfter quote c) cs) := by
  rw [splitItems.eq_def]
  dsimp only
  split
  · rfl
  · unfold quoteAfter
    generalize splitItems _ cs = items
    cases items with
    | nil => rfl
    | cons item items => rfl

theorem splitItems_ne_nil (quote : Option Char) (cs : List Char) : splitItems quote cs ≠ [] := by
  cases cs with
  | nil => exact List.cons_ne_nil _ _
  | cons c cs =>
    rw [splitItems_cons]
    split
    · exact List.cons_ne_nil _ _
    · cases splitItems (quoteAfter quote c) cs with
      | nil => exact List.cons_ne_nil _ _
      | cons item items => exact List.cons_ne_nil _ _

/-- Up to its end an unsplit text belongs to one item. -/
theorem splitItems_append {quote : Option Char} {cs : List Char} (h : Unsplit quote cs)
    (rest : List Char) :
    splitItems quote (cs ++ rest) = prepend cs (splitItems (cs.foldl quoteAfter quote) rest) := by
  induction cs generalizing quote with
  | nil =>
    show splitItems quote rest = prepend [] (splitItems quote rest)
    cases hsplit : splitItems quote rest with
    | nil => exact absurd hsplit (splitItems_ne_nil quote rest)
    | cons item items => rfl
  | cons c cs ih =>
    rw [List.cons_append, splitItems_cons, if_neg h.1, ih h.2, List.foldl_cons]
    cases splitItems (cs.foldl quoteAfter (quoteAfter quote c)) rest with
    | nil => rfl
    | cons item items => rfl

/-- A text that opens no quote without closing it, with all its commas between quotes. -/
structure IsClosed (cs : List Char) : Prop where
  unsplit : Unsplit none cs
  closes : cs.foldl quoteAfter none = none

instance (cs : List Char) : Decidable (IsClosed cs) :=
  decidable_of_iff (Unsplit none cs ∧ cs.foldl quoteAfter none = none)
    ⟨fun ⟨hunsplit, hcloses⟩ => ⟨hunsplit, hcloses⟩, fun h => ⟨h.unsplit, h.closes⟩⟩

/-- Without quotes and commas there is nothing to close. -/
theorem isClosed_of_plain {cs : List Char} (h : ∀ c ∈ cs, c ≠ ',' ∧ c ≠ '"' ∧ c ≠ '\'') :
    IsClosed cs := by
  induction cs with
  | nil => exact ⟨trivial, rfl⟩
  | cons c cs ih =>
    obtain ⟨hcomma, hdouble, hsingle⟩ := h c List.mem_cons_self
    obtain ⟨hunsplit, hcloses⟩ := ih fun d hd => h d (List.mem_cons_of_mem c hd)
    have hquote : quoteAfter none c = none := if_neg (by simp [hdouble, hsingle])
    refine ⟨⟨fun hc => hcomma hc.2, ?_⟩, ?_⟩
    · rw [hquote]
      exact hunsplit
    · rw [List.foldl_cons, hquote]
      exact hcloses

/-- Inside quotes anything but the quote itself leaves them open. -/
theorem unsplit_quoted {q : Char} {cs : List Char} (h : q ∉ cs) :
    Unsplit (some q) cs ∧ cs.foldl quoteAfter (some q) = some q := by
  induction cs with
  | nil => exact ⟨trivial, rfl⟩
  | cons c cs ih =>
    have hc : c ≠ q := by
      rintro rfl
      exact h List.mem_cons_self
    have hquote : quoteAfter (some q) c = some q := if_neg hc
    obtain ⟨hunsplit, hopen⟩ := ih fun hmem => h (List.mem_cons_of_mem c hmem)
    refine ⟨⟨fun hnone => Option.some_ne_none q hnone.1, ?_⟩, ?_⟩
    · rw [hquote]
      exact hunsplit
    · rw [List.foldl_cons, hquote]
      exact hopen

theorem unsplit_append {quote : Option Char} {cs ds : List Char} (h : Unsplit quote cs)
    (hd : Unsplit (cs.foldl quoteAfter quote) ds) : Unsplit quote (cs ++ ds) := by
  induction cs generalizing quote with
  | nil => exact hd
  | cons c cs ih => exact ⟨h.1, ih h.2 hd⟩

theorem isClosed_quoted {cs : List Char} (h : '"' ∉ cs) : IsClosed ('"' :: (cs ++ ['"'])) := by
  have hopen : quoteAfter none '"' = some '"' := rfl
  have hclose : quoteAfter (some '"') '"' = none := rfl
  obtain ⟨hunsplit, hinside⟩ := unsplit_quoted h
  refine ⟨⟨by decide, ?_⟩, ?_⟩
  · rw [hopen]
    apply unsplit_append hunsplit
    rw [hinside]
    exact ⟨by decide, trivial⟩
  · rw [List.foldl_cons, hopen, List.foldl_append, hinside]
    exact hclose

/-! ## Items -/

/-- Items that keep apart in a list: each is closed, but the last one may leave a quote open. -/
def Apart : List (List Char) → Prop
  | [] => True
  | [cs] => Unsplit none cs
  | cs :: ds :: rest => IsClosed cs ∧ Apart (ds :: rest)

instance decidableApart : (items : List (List Char)) → Decidable (Apart items)
  | [] => isTrue trivial
  | [cs] => inferInstanceAs (Decidable (Unsplit none cs))
  | cs :: ds :: rest =>
    have := decidableApart (ds :: rest)
    inferInstanceAs (Decidable (IsClosed cs ∧ Apart (ds :: rest)))

theorem apart_of_isClosed {items : List (List Char)} (h : ∀ cs ∈ items, IsClosed cs) : Apart items := by
  induction items with
  | nil => trivial
  | cons cs items ih =>
    have hrest := ih fun ds hds => h ds (List.mem_cons_of_mem cs hds)
    cases items with
    | nil => exact (h cs List.mem_cons_self).unsplit
    | cons ds items => exact ⟨h cs List.mem_cons_self, hrest⟩

/-- Items with a comma and a space between them are split at those commas. -/
theorem splitItems_intercalate {item : List Char} {items : List (List Char)}
    (h : Apart (item :: items)) :
    splitItems none ([',', ' '].intercalate (item :: items)) = item :: items.map (' ' :: ·) := by
  induction items generalizing item with
  | nil =>
    have hunsplit : Unsplit none item := h
    have hsplit := splitItems_append hunsplit []
    rw [List.append_nil] at hsplit
    rw [List.intercalate_singleton, hsplit]
    show [item ++ []] = [item]
    rw [List.append_nil]
  | cons next items ih =>
    obtain ⟨hitem, hnext⟩ := h
    have hspace : IsClosed [' '] := isClosed_of_plain (by simp)
    have hrest := splitItems_append hspace.unsplit ([',', ' '].intercalate (next :: items))
    rw [hspace.closes, ih hnext] at hrest
    rw [List.intercalate_cons_cons, List.append_assoc, splitItems_append hitem.unsplit, hitem.closes]
    show prepend item ([] :: splitItems none ([' '] ++ [',', ' '].intercalate (next :: items))) = _
    rw [hrest]
    show (item ++ []) :: _ = _
    rw [List.append_nil]
    rfl

/-- A text has no quotes of its own; other values have none anyway. -/
def Value.QuoteFree : Value → Prop
  | .text s => '"' ∉ s.toList ∧ '\'' ∉ s.toList
  | _ => True

instance Value.decidableQuoteFree : DecidablePred Value.QuoteFree
  | .text s => inferInstanceAs (Decidable ('"' ∉ s.toList ∧ '\'' ∉ s.toList))
  | .null | .bool _ | .int _ | .real _ | .list _ | .tree _ => isTrue trivial

/-- A scalar that a list can hold. -/
def Value.FitsItem (v : Value) : Prop := v.FitsLine ∧ v.QuoteFree

instance (v : Value) : Decidable v.FitsItem := inferInstanceAs (Decidable (_ ∧ _))

/-- The text of an item. -/
def itemText (v : Value) : List Char := (writeScalar true v).toList

theorem isClosed_itemText {v : Value} (h : v.FitsItem) : IsClosed (itemText v) := by
  obtain ⟨hline, htext⟩ := h
  by_cases hv : ∃ s, v = .text s
  · obtain ⟨s, rfl⟩ := hv
    obtain ⟨hdouble, hsingle⟩ : '"' ∉ s.toList ∧ '\'' ∉ s.toList := htext
    show IsClosed (if needsQuotes true s then quote s else s).toList
    cases hq : needsQuotes true s with
    | true =>
      obtain ⟨q, -, heq, hq⟩ := exists_quote_eq s
      rw [if_pos rfl, heq, String.toList_ofList, hq hdouble]
      exact isClosed_quoted hdouble
    | false =>
      obtain ⟨-, -, -, -, hlist⟩ := of_needsQuotes hq
      apply isClosed_of_plain
      intro c hc
      refine ⟨?_, ?_, ?_⟩
      · rintro rfl
        exact (hlist rfl).1 hc
      · rintro rfl
        exact hdouble hc
      · rintro rfl
        exact hsingle hc
  · obtain ⟨-, hbare⟩ := writeScalar_bare true hline fun s hs => hv ⟨s, hs⟩
    apply isClosed_of_plain
    intro c hc
    have hc := hbare c hc
    refine ⟨?_, ?_, ?_⟩
    · rintro rfl
      cases hc
    · rintro rfl
      cases hc
    · rintro rfl
      cases hc

section Results

variable {ε ε' α β : Type} {x : Except ε α}

/-- The first step of a computation that gave a result gave one, too. -/
theorem exists_of_bind_ok {f : α → Except ε β} {b : β} (h : x.bind f = .ok b) :
    ∃ a, x = .ok a ∧ f a = .ok b := by
  cases x with
  | error e => cases h
  | ok a => exact ⟨a, rfl, h⟩

/-- The error of a computation is that of its first step, or of what came after it. -/
theorem cases_of_bind_error {f : α → Except ε β} {e : ε} (h : x.bind f = .error e) :
    x = .error e ∨ ∃ a, x = .ok a ∧ f a = .error e := by
  cases x with
  | error e' =>
    cases h
    exact .inl rfl
  | ok a => exact .inr ⟨a, rfl, h⟩

theorem exists_of_map_ok {f : α → β} {b : β} (h : x.map f = .ok b) : ∃ a, x = .ok a ∧ f a = b := by
  cases x with
  | error e => cases h
  | ok a => exact ⟨a, rfl, Except.ok.inj h⟩

theorem ok_of_mapError_ok {f : ε → ε'} {a : α} (h : x.mapError f = .ok a) : x = .ok a := by
  cases x with
  | error e => cases h
  | ok b => exact congrArg Except.ok (Except.ok.inj h)

end Results

theorem readItem_of_isToken {cs : List Char} (h : IsToken cs) :
    readItem cs = .ok (readScalar (.ofList cs)) := by
  obtain ⟨c, rest, rfl, -⟩ := h.tight.exists_cons
  obtain ⟨hopen, hbrace⟩ := h.opening c rfl
  unfold readItem
  rw [h.tight.trimmed_eq]
  exact if_neg (by simp [hopen, hbrace])

theorem readItem_itemText {v : Value} (h : v.FitsLine) : readItem (itemText v) = .ok v := by
  unfold itemText
  rw [readItem_of_isToken (isToken_writeScalar true h), String.ofList_toList,
    readScalar_writeScalar true h]

theorem readItem_space (cs : List Char) : readItem (' ' :: cs) = readItem cs := by
  unfold readItem
  rw [Text.trimmed_cons_of_isBlank rfl]

theorem mapM_readItem {items : List Value} (h : ∀ v ∈ items, v.FitsLine) :
    ((items.map itemText).map (' ' :: ·)).mapM readItem = .ok items := by
  induction items with
  | nil => rfl
  | cons v items ih =>
    rw [List.map_cons, List.map_cons, List.mapM_cons, readItem_space,
      readItem_itemText (h v List.mem_cons_self), ih fun w hw => h w (List.mem_cons_of_mem v hw)]
    rfl

/-! ## Lists -/

theorem toList_writeList (items : List Value) :
    (writeList items).toList = '[' :: ([',', ' '].intercalate (items.map itemText) ++ [']']) := by
  unfold writeList Text.joinWith
  rw [String.toList_append, String.toList_append, String.toList_intercalate, List.map_map]
  rfl

theorem mem_intercalate {sep : List Char} {ls : List (List Char)} {c : Char}
    (h : c ∈ sep.intercalate ls) : c ∈ sep ∨ ∃ l ∈ ls, c ∈ l := by
  induction ls with
  | nil => cases h
  | cons l ls ih =>
    cases ls with
    | nil =>
      rw [List.intercalate_singleton] at h
      exact .inr ⟨l, List.mem_cons_self, h⟩
    | cons m ls =>
      rw [List.intercalate_cons_cons] at h
      rcases List.mem_append.1 h with h | h
      · rcases List.mem_append.1 h with h | h
        · exact .inr ⟨l, List.mem_cons_self, h⟩
        · exact .inl h
      · rcases ih h with h | ⟨k, hk, h⟩
        · exact .inl h
        · exact .inr ⟨k, List.mem_cons_of_mem l hk, h⟩

/-- What stands between the brackets is read as the items. -/
theorem readItems_intercalate {items : List Value} (h : ∀ v ∈ items, v.FitsLine)
    (hapart : Apart (items.map itemText)) :
    readItems ([',', ' '].intercalate (items.map itemText)) = .ok (.list items) := by
  cases items with
  | nil => rfl
  | cons v items =>
    have hv := h v List.mem_cons_self
    have hblank : ([',', ' '].intercalate ((v :: items).map itemText)).all Text.isBlank = false := by
      obtain ⟨c, rest, heq, hc⟩ := (isToken_writeScalar true hv).tight.exists_cons
      have hmem : c ∈ [',', ' '].intercalate ((v :: items).map itemText) := by
        rw [List.map_cons, show itemText v = c :: rest from heq]
        cases items with
        | nil => exact List.mem_cons_self
        | cons w items => exact List.mem_cons_self
      cases hall : ([',', ' '].intercalate ((v :: items).map itemText)).all Text.isBlank with
      | false => rfl
      | true =>
        rw [List.all_eq_true.1 hall c hmem] at hc
        cases hc
    unfold readItems
    rw [hblank, if_neg Bool.false_ne_true, List.map_cons, splitItems_intercalate hapart,
      List.mapM_cons, readItem_itemText hv, mapM_readItem fun w hw => h w (List.mem_cons_of_mem v hw)]
    rfl

/-! ## Values -/

/-- A value that is no tree and has a text on one line. -/
def Value.FitsEntry : Value → Prop
  | .list items => ∀ v ∈ items, v.FitsItem
  | v => v.FitsLine

instance Value.decidableFitsEntry : DecidablePred Value.FitsEntry
  | .list items => inferInstanceAs (Decidable (∀ v ∈ items, v.FitsItem))
  | .null => Value.decidableFitsLine .null
  | .bool b => Value.decidableFitsLine (.bool b)
  | .int n => Value.decidableFitsLine (.int n)
  | .real x => Value.decidableFitsLine (.real x)
  | .text s => Value.decidableFitsLine (.text s)
  | .tree entries => Value.decidableFitsLine (.tree entries)

/-- The text after the key of a value that is no tree. -/
def valueText : Value → List Char
  | .list items => (writeList items).toList
  | v => (writeScalar false v).toList

/-- The text stands for the value wherever an entry has its value. -/
structure Spells (cs : List Char) (v : Value) : Prop where
  tight : Text.IsTight cs
  oneLine : '\n' ∉ cs
  reads : readValue cs = .ok v

theorem isTight_writeList (items : List Value) : Text.IsTight (writeList items).toList := by
  rw [toList_writeList]
  exact Text.IsTight.enclose rfl rfl _

theorem oneLine_writeList {items : List Value} (h : ∀ v ∈ items, v.FitsLine) :
    '\n' ∉ (writeList items).toList := by
  rw [toList_writeList]
  intro hmem
  rcases List.mem_cons.1 hmem with hmem | hmem
  · cases hmem
  · rcases List.mem_append.1 hmem with hmem | hmem
    · rcases mem_intercalate hmem with hmem | ⟨cs, hcs, hmem⟩
      · revert hmem
        decide
      · obtain ⟨v, hv, rfl⟩ := List.mem_map.1 hcs
        exact (isToken_writeScalar true (h v hv)).oneLine hmem
    · cases List.mem_singleton.1 hmem

/-- The brackets of a list are taken off again. -/
theorem readValue_writeList (items : List Value) :
    readValue (writeList items).toList = readItems ([',', ' '].intercalate (items.map itemText)) := by
  rw [toList_writeList]
  show (if ([',', ' '].intercalate (items.map itemText) ++ [']']).getLast? = some ']' then
    readItems ([',', ' '].intercalate (items.map itemText) ++ [']']).dropLast
    else .error .unterminatedList) = _
  rw [if_pos List.getLast?_concat, List.dropLast_concat]

theorem spells_writeList {items : List Value} (h : ∀ v ∈ items, v.FitsLine)
    (hapart : Apart (items.map itemText)) : Spells (writeList items).toList (.list items) := by
  refine ⟨isTight_writeList items, oneLine_writeList h, ?_⟩
  rw [readValue_writeList, readItems_intercalate h hapart]

theorem readValue_of_isToken {cs : List Char} (h : IsToken cs) :
    readValue cs = .ok (readScalar (.ofList cs)) := by
  unfold readValue
  split
  · exact absurd rfl (h.opening '{' rfl).2
  · exact absurd rfl (h.opening '[' rfl).1
  · rfl

theorem spells_writeScalar {v : Value} (h : v.FitsLine) : Spells (writeScalar false v).toList v := by
  have htoken := isToken_writeScalar false h
  refine ⟨htoken.tight, htoken.oneLine, ?_⟩
  rw [readValue_of_isToken htoken, String.ofList_toList, readScalar_writeScalar false h]

/-- A scalar that fits on a line, or a list of such scalars. -/
def Value.IsFlat : Value → Prop
  | .list items => ∀ v ∈ items, v.FitsLine
  | v => v.FitsLine

/-- A value that comes back from its text: the items of a list keep apart in it. -/
def Value.Survives : Value → Prop
  | .list items => (∀ v ∈ items, v.FitsLine) ∧ Apart (items.map itemText)
  | v => v.FitsLine

instance Value.decidableSurvives : DecidablePred Value.Survives
  | .list items => inferInstanceAs (Decidable ((∀ v ∈ items, v.FitsLine) ∧ Apart (items.map itemText)))
  | .null => Value.decidableFitsLine .null
  | .bool b => Value.decidableFitsLine (.bool b)
  | .int n => Value.decidableFitsLine (.int n)
  | .real x => Value.decidableFitsLine (.real x)
  | .text s => Value.decidableFitsLine (.text s)
  | .tree entries => Value.decidableFitsLine (.tree entries)

theorem spells_of_survives {v : Value} (h : v.Survives) : Spells (valueText v) v := by
  cases v with
  | list items => exact spells_writeList h.1 h.2
  | _ => exact spells_writeScalar h

theorem Value.FitsEntry.survives {v : Value} (h : v.FitsEntry) : v.Survives := by
  cases v with
  | list items =>
    refine ⟨fun v hv => (h v hv).1, apart_of_isClosed fun cs hcs => ?_⟩
    obtain ⟨v, hv, rfl⟩ := List.mem_map.1 hcs
    exact isClosed_itemText (h v hv)
  | _ => exact h

theorem spells_valueText {v : Value} (h : v.FitsEntry) : Spells (valueText v) v :=
  spells_of_survives h.survives

theorem layout_writeScalar {v : Value} (h : v.FitsLine) :
    Text.IsTight (writeScalar false v).toList ∧ '\n' ∉ (writeScalar false v).toList :=
  ⟨(isToken_writeScalar false h).tight, (isToken_writeScalar false h).oneLine⟩

/-- The text of a flat value takes up one line without white space at its ends. -/
theorem layout_valueText {v : Value} (h : v.IsFlat) :
    Text.IsTight (valueText v) ∧ '\n' ∉ valueText v := by
  cases v with
  | list items => exact ⟨isTight_writeList items, oneLine_writeList h⟩
  | _ => exact layout_writeScalar h

end RecordDesk.Metadata
