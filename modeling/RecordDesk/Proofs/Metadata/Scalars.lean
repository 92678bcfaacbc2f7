import RecordDesk.Metadata.Printer
import RecordDesk.Proofs.Metadata.Reals
import RecordDesk.Proofs.Text.Cutting

/-!
Scalars are read back from their text. A word, a number or a quoted text cannot be taken for one of the
others, and a text without quotes was tried out by the printer itself.
-/

namespace RecordDesk.Metadata

/-! ## What is no word and no number -/

theorem isDigit_iff {c : Char} : c.isDigit = true ↔ 48 ≤ c.toNat ∧ c.toNat ≤ 57 := by
  change (decide (48 ≤ c.toNat) && decide (c.toNat ≤ 57)) = true ↔ _
  rw [Bool.and_eq_true, decide_eq_true_eq, decide_eq_true_eq]

theorem isAlpha_iff {c : Char} :
    c.isAlpha = true ↔ (65 ≤ c.toNat ∧ c.toNat ≤ 90) ∨ (97 ≤ c.toNat ∧ c.toNat ≤ 122) := by
  change (decide (65 ≤ c.toNat ∧ c.toNat ≤ 90) ||
    decide (97 ≤ c.toNat) && decide (c.toNat ≤ 122)) = true ↔ _
  simp only [Bool.or_eq_true, Bool.and_eq_true, decide_eq_true_eq]

theorem isAlpha_of_isAlpha_toLower {c : Char} (h : c.toLower.isAlpha = true) : c.isAlpha = true := by
  by_cases hupper : c.val ≥ 65 ∧ c.val ≤ 90
  · exact isAlpha_iff.2 (.inl hupper)
  · have hsame : c.toLower = c := dif_neg hupper
    rwa [hsame] at h

/-- The words for truth values and null consist of letters. -/
theorem readWord?_eq_none {token : String} {c : Char} (hc : c ∈ token.toList)
    (hletter : c.isAlpha = false) : readWord? token = none := by
  have hno {word : String} (hword : ∀ d ∈ word.toList, d.isAlpha = true) :
      Text.asciiLower token ≠ word := by
    rintro rfl
    have hlower := hword c.toLower (by
      unfold Text.asciiLower
      rw [String.toList_map]
      exact List.mem_map_of_mem hc)
    rw [isAlpha_of_isAlpha_toLower hlower] at hletter
    cases hletter
  unfold readWord?
  split
  · next h => exact absurd h (hno (by simp))
  · next h => exact absurd h (hno (by simp))
  · next h => exact absurd h (hno (by simp))
  · next h => exact absurd h (hno (by simp))
  · rfl

theorem isNumberChar_of_signed? {cs : List Char} {n : Int} (h : Numeral.signed? cs = some n) :
    ∀ c ∈ cs, isNumberChar c = true := by
  intro c hc
  rcases Numeral.chars_of_signed? h c hc with hd | rfl | rfl
  · exact isNumberChar_of_isDigit hd
  · decide
  · decide

theorem readNumber?_eq_none {cs : List Char} {c : Char} (hc : c ∈ cs)
    (hnumber : isNumberChar c = false) : readNumber? cs = none := by
  have hint : readInt? cs = none := by
    unfold readInt?
    split
    · rfl
    · next n hn =>
      rw [isNumberChar_of_signed? hn c hc] at hnumber
      cases hnumber
  have hlooks : looksNumeric cs = false := by
    cases h : looksNumeric cs with
    | false => rfl
    | true =>
      unfold looksNumeric at h
      rw [Bool.and_eq_true, List.all_eq_true] at h
      rw [h.2 c hc] at hnumber
      cases hnumber
  unfold readNumber?
  rw [hint, hlooks]
  rfl

/-! ## Tokens -/

/-- A text that can stand for a scalar after a key or in a list. -/
structure IsToken (cs : List Char) : Prop where
  tight : Text.IsTight cs
  oneLine : '\n' ∉ cs
  opening : ∀ c, cs.head? = some c → c ≠ '[' ∧ c ≠ '{'

/-- The characters of words and numbers. -/
def isBareChar (c : Char) : Bool := c.isAlphanum || c == '.' || c == '-' || c == '+'

theorem not_isBlank_of_isBareChar {c : Char} (h : isBareChar c = true) : Text.isBlank c = false := by
  have hcode : 32 < c.toNat ∧ c.toNat < 123 := by
    unfold isBareChar at h
    simp only [Bool.or_eq_true, beq_iff_eq] at h
    rcases h with ((h | rfl) | rfl) | rfl
    · rw [Char.isAlphanum, Bool.or_eq_true, isAlpha_iff, isDigit_iff] at h
      omega
    · decide
    · decide
    · decide
  simp [Text.isBlank]
  omega

theorem isBareChar_of_isNumberChar {c : Char} (h : isNumberChar c = true) : isBareChar c = true := by
  unfold isNumberChar at h
  simp only [Bool.or_eq_true, beq_iff_eq] at h
  rcases h with ((((h | rfl) | rfl) | rfl) | rfl) | rfl
  · simp [isBareChar, Char.isAlphanum, h]
  · decide
  · decide
  · decide
  · decide
  · decide

theorem isTight_of_all_bare {cs : List Char} (h : ∀ c ∈ cs, isBareChar c = true) (hne : cs ≠ []) :
    Text.IsTight cs := by
  have hblank : ∀ c ∈ cs, Text.isBlank c = false := fun c hc => not_isBlank_of_isBareChar (h c hc)
  exact ⟨⟨cs.head hne, List.head?_eq_some_head hne, hblank _ (List.head_mem hne)⟩,
    ⟨cs.getLast hne, List.getLast?_eq_some_getLast hne, hblank _ (List.getLast_mem hne)⟩⟩

theorem isToken_of_all_bare {cs : List Char} (h : ∀ c ∈ cs, isBareChar c = true) (hne : cs ≠ []) :
    IsToken cs := by
  refine ⟨isTight_of_all_bare h hne, fun hmem => ?_, fun c hc => ⟨?_, ?_⟩⟩
  · cases h _ hmem
  · rintro rfl
    cases h _ (List.mem_of_head? hc)
  · rintro rfl
    cases h _ (List.mem_of_head? hc)

/-! ## Words and numbers -/

theorem not_isAlpha_of_isDigit {c : Char} (h : c.isDigit = true) : c.isAlpha = false := by
  rw [isDigit_iff] at h
  rw [Bool.eq_false_iff, Ne, isAlpha_iff]
  omega

theorem readScalar_of_number {cs : List Char} {v : Value} (h : readNumber? cs = some v) {c : Char}
    (hc : c ∈ cs) (hd : c.isDigit = true) : readScalar (.ofList cs) = v := by
  have hword : readWord? (.ofList cs) = none :=
    readWord?_eq_none (by rw [String.toList_ofList]; exact hc) (not_isAlpha_of_isDigit hd)
  unfold readScalar
  rw [hword, String.toList_ofList, h]

theorem readNumber?_ofInt (n : Int64) : readNumber? (Numeral.ofInt n.toInt) = some (.int n) := by
  have hint : readInt? (Numeral.ofInt n.toInt) = some n := by
    have hlow := n.le_toInt
    have hhigh := n.toInt_lt
    unfold readInt?
    rw [Numeral.signed?_ofInt]
    dsimp only
    rw [if_pos ⟨hlow, hhigh⟩, Int64.ofInt_toInt]
  unfold readNumber?
  rw [hint]

theorem readNumber?_writeReal {x : Binary64} (hfin : x.isFinite = true) :
    readNumber? (writeReal x) = some (.real x) := by
  obtain ⟨hint, hlooks⟩ := writeReal_looks hfin
  unfold readNumber?
  rw [hint]
  dsimp only
  rw [if_pos hlooks, readReal?_writeReal hfin]
  exact if_pos hfin

theorem exists_isDigit_mem_ofInt (n : Int) : ∃ c ∈ Numeral.ofInt n, c.isDigit = true := by
  have hdigits := Numeral.isDigit_of_mem_ofNat n.natAbs
  have hne := Numeral.ofNat_ne_nil n.natAbs
  unfold Numeral.ofInt
  split
  · exact ⟨_, List.mem_cons_of_mem _ (List.head_mem hne), hdigits _ (List.head_mem hne)⟩
  · exact ⟨_, List.head_mem hne, hdigits _ (List.head_mem hne)⟩

theorem asciiLower_eq {s t : String} (h : s.toList.map Char.toLower = t.toList) :
    Text.asciiLower s = t := by
  apply String.toList_injective
  unfold Text.asciiLower
  rw [String.toList_map, h]

theorem readScalar_null : readScalar "null" = .null := by
  have hlower : Text.asciiLower "null" = "null" := asciiLower_eq (by decide)
  unfold readScalar readWord?
  rw [hlower]
  rfl

theorem readScalar_true : readScalar "true" = .bool true := by
  have hlower : Text.asciiLower "true" = "true" := asciiLower_eq (by decide)
  unfold readScalar readWord?
  rw [hlower]
  rfl

theorem readScalar_false : readScalar "false" = .bool false := by
  have hlower : Text.asciiLower "false" = "false" := asciiLower_eq (by decide)
  unfold readScalar readWord?
  rw [hlower]
  rfl

/-! ## Quoted texts -/

/-- What stands between quotes is taken as it is. -/
theorem readScalar_quoted {q : Char} (hq : q = '"' ∨ q = '\'') (cs : List Char) :
    readScalar (.ofList (q :: (cs ++ [q]))) = .text (.ofList cs) := by
  have hmem : q ∈ q :: (cs ++ [q]) := List.mem_cons_self
  have hletter : q.isAlpha = false := by
    rcases hq with rfl | rfl <;> rfl
  have hnumber : isNumberChar q = false := by
    rcases hq with rfl | rfl <;> rfl
  have hunquoted : unquoted? (q :: (cs ++ [q])) = some cs := by
    unfold unquoted?
    dsimp only
    rw [if_pos ⟨hq, List.getLast?_concat⟩, List.dropLast_concat]
  unfold readScalar
  rw [readWord?_eq_none (by rw [String.toList_ofList]; exact hmem) hletter, String.toList_ofList,
    readNumber?_eq_none hmem hnumber, hunquoted]

/-- The quotes that the printer takes: single ones only around double ones. -/
theorem exists_quote_eq (s : String) : ∃ q, (q = '"' ∨ q = '\'') ∧
    quote s = .ofList (q :: (s.toList ++ [q])) ∧ ('"' ∉ s.toList → q = '"') := by
  have hjoin (q : Char) (t : String) (ht : t.toList = [q]) :
      t ++ s ++ t = .ofList (q :: (s.toList ++ [q])) := by
    apply String.toList_injective
    rw [String.toList_ofList, String.toList_append, String.toList_append, ht]
    rfl
  unfold quote
  split
  · next h =>
    refine ⟨'\'', .inr rfl, hjoin _ _ rfl, fun hno => ?_⟩
    rw [Bool.and_eq_true, List.contains_iff_mem] at h
    exact absurd h.1 hno
  · exact ⟨'"', .inl rfl, hjoin _ _ rfl, fun _ => rfl⟩

theorem readScalar_quote (s : String) : readScalar (quote s) = .text s := by
  obtain ⟨q, hq, heq, -⟩ := exists_quote_eq s
  rw [heq, readScalar_quoted hq, String.ofList_toList]

theorem isToken_quote {s : String} (h : '\n' ∉ s.toList) : IsToken (quote s).toList := by
  obtain ⟨q, hq, heq, -⟩ := exists_quote_eq s
  rw [heq, String.toList_ofList]
  have hblank : Text.isBlank q = false := by
    rcases hq with rfl | rfl <;> rfl
  refine ⟨Text.IsTight.enclose hblank hblank _, ?_, ?_⟩
  · intro hmem
    rcases List.mem_cons.1 hmem with rfl | hmem
    · cases hblank
    · rcases List.mem_append.1 hmem with hmem | hmem
      · exact h hmem
      · rw [← List.mem_singleton.1 hmem] at hblank
        cases hblank
  · rintro c ⟨⟩
    rcases hq with rfl | rfl
    · decide
    · decide

/-! ## Texts without quotes -/

theorem eq_text_of_same {v : Value} {s : String} (h : v.same (.text s) = true) : v = .text s := by
  cases v with
  | text t =>
    simp only [Value.same, beq_iff_eq] at h
    rw [h]
  | _ => simp [Value.same] at h

/-- What the printer checks before it writes a text as it is. -/
theorem of_needsQuotes {inList : Bool} {s : String} (h : needsQuotes inList s = false) :
    s ≠ "" ∧ Text.trim s = s ∧ readScalar s = .text s ∧
      (∀ c, s.toList.head? = some c → c ≠ '[' ∧ c ≠ '{' ∧ c ≠ '"' ∧ c ≠ '\'') ∧
      (inList = true → ',' ∉ s.toList ∧ ']' ∉ s.toList) := by
  unfold needsQuotes at h
  simp only [Bool.or_eq_false_iff] at h
  obtain ⟨⟨⟨⟨hempty, htrim⟩, hsame⟩, hhead⟩, hlist⟩ := h
  refine ⟨?_, by simpa using htrim, eq_text_of_same (by simpa using hsame), ?_, ?_⟩
  · rintro rfl
    cases hempty
  · intro c hc
    cases hs : s.toList with
    | nil =>
      rw [hs] at hc
      cases hc
    | cons d rest =>
      rw [hs] at hc hhead
      cases hc
      simpa [and_assoc] using hhead
  · rintro rfl
    simp only [Bool.true_and, List.any_eq_false] at hlist
    constructor
    · intro hmem
      exact hlist _ hmem (by decide)
    · intro hmem
      exact hlist _ hmem (by decide)

theorem isToken_of_needsQuotes {inList : Bool} {s : String} (h : needsQuotes inList s = false)
    (hline : '\n' ∉ s.toList) : IsToken s.toList := by
  obtain ⟨hne, htrim, -, hhead, -⟩ := of_needsQuotes h
  refine ⟨Text.isTight_of_trim htrim hne, hline, fun c hc => ?_⟩
  obtain ⟨hopen, hbrace, -, -⟩ := hhead c hc
  exact ⟨hopen, hbrace⟩

/-! ## Round trip -/

/-- A scalar that has a text on one line: a finite real, or a text without a line feed, or one of the
others. -/
def Value.FitsLine : Value → Prop
  | .real x => x.isFinite = true
  | .text s => '\n' ∉ s.toList
  | .list _ => False
  | .tree _ => False
  | _ => True

instance Value.decidableFitsLine : DecidablePred Value.FitsLine
  | .null | .bool _ | .int _ => isTrue trivial
  | .real x => inferInstanceAs (Decidable (x.isFinite = true))
  | .text s => inferInstanceAs (Decidable ('\n' ∉ s.toList))
  | .list _ | .tree _ => isFalse id

/-- Reading a scalar undoes writing it. -/
theorem readScalar_writeScalar (inList : Bool) {v : Value} (h : v.FitsLine) :
    readScalar (writeScalar inList v) = v := by
  cases v with
  | null => exact readScalar_null
  | bool b =>
    cases b with
    | true => exact readScalar_true
    | false => exact readScalar_false
  | int n =>
    obtain ⟨c, hc, hd⟩ := exists_isDigit_mem_ofInt n.toInt
    exact readScalar_of_number (readNumber?_ofInt n) hc hd
  | real x =>
    have hlooks := (writeReal_looks h).2
    unfold looksNumeric at hlooks
    rw [Bool.and_eq_true, List.any_eq_true] at hlooks
    obtain ⟨c, hc, hd⟩ := hlooks.1
    exact readScalar_of_number (readNumber?_writeReal h) hc hd
  | text s =>
    show readScalar (if needsQuotes inList s then quote s else s) = .text s
    cases hq : needsQuotes inList s with
    | true => exact readScalar_quote s
    | false => exact (of_needsQuotes hq).2.2.1
  | list items => exact h.elim
  | tree entries => exact h.elim

theorem isBareChar_of_mem_writeReal {x : Binary64} (hfin : x.isFinite = true) :
    ∀ c ∈ writeReal x, isBareChar c = true := by
  have hlooks := (writeReal_looks hfin).2
  unfold looksNumeric at hlooks
  rw [Bool.and_eq_true, List.all_eq_true] at hlooks
  exact fun c hc => isBareChar_of_isNumberChar (hlooks.2 c hc)

/-- Everything but a text is written with bare characters. -/
theorem writeScalar_bare (inList : Bool) {v : Value} (h : v.FitsLine) (hv : ∀ s, v ≠ .text s) :
    (writeScalar inList v).toList ≠ [] ∧ ∀ c ∈ (writeScalar inList v).toList, isBareChar c = true := by
  cases v with
  | null => simp [writeScalar, isBareChar]
  | bool b =>
    cases b with
    | true => simp [writeScalar, isBareChar]
    | false => simp [writeScalar, isBareChar]
  | int n =>
    obtain ⟨d, hd, -⟩ := exists_isDigit_mem_ofInt n.toInt
    show (String.ofList (Numeral.ofInt n.toInt)).toList ≠ [] ∧
      ∀ c ∈ (String.ofList (Numeral.ofInt n.toInt)).toList, isBareChar c = true
    rw [String.toList_ofList]
    exact ⟨List.ne_nil_of_mem hd, fun c hc => isBareChar_of_isNumberChar (isNumberChar_of_mem_ofInt _ c hc)⟩
  | real x =>
    have hlooks := (writeReal_looks h).2
    unfold looksNumeric at hlooks
    rw [Bool.and_eq_true, List.any_eq_true] at hlooks
    obtain ⟨d, hd, -⟩ := hlooks.1
    show (String.ofList (writeReal x)).toList ≠ [] ∧
      ∀ c ∈ (String.ofList (writeReal x)).toList, isBareChar c = true
    rw [String.toList_ofList]
    exact ⟨List.ne_nil_of_mem hd, isBareChar_of_mem_writeReal h⟩
  | text s => exact absurd rfl (hv s)
  | list items => exact h.elim
  | tree entries => exact h.elim

/-- The text of a scalar is a token. -/
theorem isToken_writeScalar (inList : Bool) {v : Value} (h : v.FitsLine) :
    IsToken (writeScalar inList v).toList := by
  by_cases hv : ∃ s, v = .text s
  · obtain ⟨s, rfl⟩ := hv
    show IsToken (if needsQuotes inList s then quote s else s).toList
    cases hq : needsQuotes inList s with
    | true => exact isToken_quote h
    | false => exact isToken_of_needsQuotes hq h
  · obtain ⟨hne, hbare⟩ := writeScalar_bare inList h fun s hs => hv ⟨s, hs⟩
    exact isToken_of_all_bare hbare hne

/-! ## What a token is read as -/

theorem eq_of_unquoted? {cs inner : List Char} (h : unquoted? cs = some inner) :
    ∃ q, (q = '"' ∨ q = '\'') ∧ cs = q :: (inner ++ [q]) := by
  unfold unquoted? at h
  split at h
  · cases h
  · next q cs =>
    split at h
    · next hq =>
      obtain ⟨hquote, hlast⟩ := hq
      obtain ⟨front, rfl⟩ := List.getLast?_eq_some_iff.1 hlast
      rw [List.dropLast_concat] at h
      cases h
      exact ⟨q, hquote, rfl⟩
    · cases h

/-- The ways in which a token is read, in the order in which they are tried. -/
theorem readScalar_cases (token : String) :
    readWord? token = some (readScalar token) ∨ readNumber? token.toList = some (readScalar token) ∨
      (∃ inner, unquoted? token.toList = some inner ∧ readScalar token = .text (.ofList inner)) ∨
      readScalar token = .text token := by
  unfold readScalar
  split
  · next hword => exact .inl hword
  · split
    · next hnumber => exact .inr (.inl hnumber)
    · split
      · next inner hquoted => exact .inr (.inr (.inl ⟨inner, hquoted, rfl⟩))
      · exact .inr (.inr (.inr rfl))

theorem cases_of_readWord? {token : String} {v : Value} (h : readWord? token = some v) :
    v = .null ∨ ∃ b, v = .bool b := by
  unfold readWord? at h
  split at h
  · exact .inr ⟨true, (Option.some.inj h).symm⟩
  · exact .inr ⟨false, (Option.some.inj h).symm⟩
  · exact .inl (Option.some.inj h).symm
  · exact .inl (Option.some.inj h).symm
  · cases h

theorem cases_of_readNumber? {cs : List Char} {v : Value} (h : readNumber? cs = some v) :
    (∃ n, v = .int n) ∨ ∃ x, v = .real x ∧ x.isFinite = true := by
  unfold readNumber? at h
  split at h
  · next n _ => exact .inl ⟨n, (Option.some.inj h).symm⟩
  · split at h
    · split at h
      · next x _ =>
        split at h
        · next hfin => exact .inr ⟨x, (Option.some.inj h).symm, hfin⟩
        · cases h
      · cases h
    · cases h

theorem isScalar_readScalar (token : String) : (readScalar token).isScalar = true := by
  rcases readScalar_cases token with hword | hnumber | ⟨inner, -, hread⟩ | hread
  · rcases cases_of_readWord? hword with hv | ⟨b, hv⟩
    · rw [hv]
      rfl
    · rw [hv]
      rfl
  · rcases cases_of_readNumber? hnumber with ⟨n, hv⟩ | ⟨x, hv, -⟩
    · rw [hv]
      rfl
    · rw [hv]
      rfl
  · rw [hread]
    rfl
  · rw [hread]
    rfl

/-- A token on one line is read as a scalar that fits on one. -/
theorem fitsLine_readScalar {token : String} (h : '\n' ∉ token.toList) : (readScalar token).FitsLine := by
  rcases readScalar_cases token with hword | hnumber | ⟨inner, hquoted, hread⟩ | hread
  · rcases cases_of_readWord? hword with hv | ⟨b, hv⟩
    · rw [hv]
      trivial
    · rw [hv]
      trivial
  · rcases cases_of_readNumber? hnumber with ⟨n, hv⟩ | ⟨x, hv, hfin⟩
    · rw [hv]
      trivial
    · rw [hv]
      exact hfin
  · obtain ⟨q, -, heq⟩ := eq_of_unquoted? hquoted
    rw [hread]
    show '\n' ∉ (String.ofList inner).toList
    rw [String.toList_ofList]
    rw [heq] at h
    exact fun hmem => h (List.mem_cons_of_mem q (List.mem_append_left [q] hmem))
  · rw [hread]
    exact h

end RecordDesk.Metadata
