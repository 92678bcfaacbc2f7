import RecordDesk.Text.Blank
import RecordDesk.Text.Split

/-!
Cutting texts: white space off the ends, a text at its first separator, a text into its lines. Each
cut undoes the joining that a printer does.
-/

namespace RecordDesk.Text

/-! ## White space at the ends -/

/-- A text that starts and ends with something other than white space. -/
structure IsTight (cs : List Char) : Prop where
  first : ∃ c, cs.head? = some c ∧ isBlank c = false
  last : ∃ c, cs.getLast? = some c ∧ isBlank c = false

theorem isTight_singleton {c : Char} (h : isBlank c = false) : IsTight [c] :=
  ⟨⟨c, rfl, h⟩, ⟨c, rfl, h⟩⟩

theorem trimmedEnd_of_last {cs : List Char} (h : ∃ c, cs.getLast? = some c ∧ isBlank c = false) :
    trimmedEnd cs = cs := by
  obtain ⟨c, hc, hblank⟩ := h
  obtain ⟨front, rfl⟩ := List.getLast?_eq_some_iff.1 hc
  unfold trimmedEnd dropEndWhile
  rw [List.reverse_append, List.reverse_singleton, List.singleton_append,
    List.dropWhile_cons_of_neg (by simp [hblank]), List.reverse_cons, List.reverse_reverse]

namespace IsTight

variable {cs ds : List Char}

/-- Only the ends of a text count. -/
theorem append (h : IsTight cs) (hd : IsTight ds) : IsTight (cs ++ ds) := by
  obtain ⟨c, hc, hblank⟩ := h.first
  obtain ⟨d, hd, hblank'⟩ := hd.last
  exact ⟨⟨c, by rw [List.head?_append, hc]; rfl, hblank⟩,
    ⟨d, by rw [List.getLast?_append, hd]; rfl, hblank'⟩⟩

theorem append_cons (h : IsTight cs) (c : Char) (hd : IsTight ds) : IsTight (cs ++ c :: ds) := by
  obtain ⟨a, ha, hblank⟩ := h.first
  obtain ⟨b, hb, hblank'⟩ := hd.last
  refine ⟨⟨a, by rw [List.head?_append, ha]; rfl, hblank⟩, ⟨b, ?_, hblank'⟩⟩
  rw [List.getLast?_append, List.getLast?_cons, hb]
  rfl

/-- A text between two tight ones may be anything. -/
theorem enclose {c d : Char} (hc : isBlank c = false) (hd : isBlank d = false) (es : List Char) :
    IsTight (c :: (es ++ [d])) := by
  refine ⟨⟨c, rfl, hc⟩, ⟨d, ?_, hd⟩⟩
  rw [← List.cons_append]
  exact List.getLast?_concat

theorem exists_cons (h : IsTight cs) : ∃ c rest, cs = c :: rest ∧ isBlank c = false := by
  obtain ⟨c, hc, hblank⟩ := h.first
  cases cs with
  | nil => cases hc
  | cons _ rest =>
    cases hc
    exact ⟨c, rest, rfl, hblank⟩

theorem trimmedStart_eq (h : IsTight cs) : trimmedStart cs = cs := by
  obtain ⟨c, rest, rfl, hblank⟩ := h.exists_cons
  exact List.dropWhile_cons_of_neg (by simp [hblank])

theorem trimmedEnd_eq (h : IsTight cs) : trimmedEnd cs = cs := trimmedEnd_of_last h.last

theorem trimmed_eq (h : IsTight cs) : trimmed cs = cs := by
  unfold trimmed
  rw [h.trimmedStart_eq, h.trimmedEnd_eq]

theorem trim_eq {s : String} (h : IsTight s.toList) : trim s = s := by
  unfold trim
  rw [h.trimmed_eq, String.ofList_toList]

theorem isBlankText_eq {s : String} (h : IsTight s.toList) : isBlankText s = false := by
  obtain ⟨c, rest, hcs, hblank⟩ := h.exists_cons
  simp [isBlankText, hcs, hblank]

theorem ne_empty {s : String} (h : IsTight s.toList) : s ≠ "" := by
  rintro rfl
  obtain ⟨c, rest, hcs, -⟩ := h.exists_cons
  cases hcs

end IsTight

/-- Behind a tight text, only what follows it can be cut. -/
theorem IsTight.trimmed_append {cs : List Char} (h : IsTight cs) (ds : List Char) :
    trimmed (cs ++ ds) = cs ++ trimmedEnd ds := by
  obtain ⟨c, rest, hcs, hblank⟩ := h.exists_cons
  have hstart : trimmedStart (cs ++ ds) = cs ++ ds := by
    rw [hcs]
    exact List.dropWhile_cons_of_neg (by simp [hblank])
  have hend : cs.reverse.dropWhile isBlank = cs.reverse := by
    have heq := congrArg List.reverse h.trimmedEnd_eq
    unfold trimmedEnd dropEndWhile at heq
    rwa [List.reverse_reverse] at heq
  unfold trimmed
  rw [hstart]
  unfold trimmedEnd dropEndWhile
  rw [List.reverse_append, List.dropWhile_append]
  split
  · next hnil => rw [List.isEmpty_iff.1 hnil, hend, List.reverse_reverse, List.reverse_nil, List.append_nil]
  · rw [List.reverse_append, List.reverse_reverse]

theorem trimmed_cons_of_isBlank {c : Char} (h : isBlank c = true) (cs : List Char) :
    trimmed (c :: cs) = trimmed cs := by
  unfold trimmed trimmedStart
  rw [List.dropWhile_cons_of_pos h]

theorem length_trimmedEnd_le (cs : List Char) : (trimmedEnd cs).length ≤ cs.length := by
  have h := (List.dropWhile_sublist (p := isBlank) (l := cs.reverse)).length_le
  simpa [trimmedEnd, dropEndWhile] using h

/-- A text that trimming leaves alone is empty or tight. -/
theorem isTight_of_trimmed {cs : List Char} (h : trimmed cs = cs) (hne : cs ≠ []) : IsTight cs := by
  constructor
  · cases cs with
    | nil => exact absurd rfl hne
    | cons c rest =>
      refine ⟨c, rfl, ?_⟩
      cases hc : isBlank c with
      | false => rfl
      | true =>
        -- A blank in front would have been dropped, and the text would be shorter.
        have hlen := congrArg List.length h
        rw [trimmed_cons_of_isBlank hc] at hlen
        have hend := length_trimmedEnd_le (trimmedStart rest)
        have hstart := (List.dropWhile_sublist (p := isBlank) (l := rest)).length_le
        unfold trimmed at hlen
        unfold trimmedStart at hend hlen
        rw [List.length_cons] at hlen
        omega
  · have hhead := List.head?_dropWhile_not isBlank (trimmedStart cs).reverse
    have hlast : cs.getLast? = ((trimmedStart cs).reverse.dropWhile isBlank).head? := by
      conv => lhs; rw [← h]
      exact List.getLast?_reverse
    rw [← hlast] at hhead
    have hc := List.getLast?_eq_some_getLast hne
    generalize cs.getLast hne = c at hc
    rw [hc] at hhead
    exact ⟨c, hc, by simpa using hhead⟩

theorem isTight_of_trim {s : String} (h : trim s = s) (hne : s ≠ "") : IsTight s.toList := by
  apply isTight_of_trimmed
  · conv => rhs; rw [← h]
    exact String.toList_ofList.symm
  · exact fun hnil => hne (String.toList_eq_nil_iff.1 hnil)

/-- What is left does not end in white space. -/
theorem last_trimmedEnd {cs : List Char} (hne : trimmedEnd cs ≠ []) :
    ∃ c, (trimmedEnd cs).getLast? = some c ∧ isBlank c = false := by
  have hc := List.getLast?_eq_some_getLast hne
  generalize (trimmedEnd cs).getLast hne = c at hc
  have hend : (cs.reverse.dropWhile isBlank).head? = some c := by
    rw [← hc]
    exact List.getLast?_reverse.symm
  have hblank := List.head?_dropWhile_not isBlank cs.reverse
  rw [hend] at hblank
  exact ⟨c, hc, by simpa using hblank⟩

theorem prefix_trimmedEnd (cs : List Char) : trimmedEnd cs <+: cs := by
  have h := List.reverse_prefix.2 (List.dropWhile_suffix (l := cs.reverse) isBlank)
  rwa [List.reverse_reverse] at h

theorem mem_of_mem_trimmed {c : Char} {cs : List Char} (h : c ∈ trimmed cs) : c ∈ cs :=
  (List.dropWhile_sublist isBlank).mem ((prefix_trimmedEnd _).mem h)

/-- What trimming leaves is tight. -/
theorem isTight_trimmed {cs : List Char} (hne : trimmed cs ≠ []) : IsTight (trimmed cs) := by
  constructor
  · have hc := List.head?_eq_some_head hne
    generalize (trimmed cs).head hne = c at hc
    obtain ⟨rest, hrest⟩ := prefix_trimmedEnd (trimmedStart cs)
    have hend : (trimmedEnd (trimmedStart cs)).head? = some c := hc
    have hstart : (cs.dropWhile isBlank).head? = some c := by
      show (trimmedStart cs).head? = some c
      conv => lhs; rw [← hrest]
      rw [List.head?_append, hend]
      rfl
    have hblank := List.head?_dropWhile_not isBlank cs
    rw [hstart] at hblank
    exact ⟨c, hc, by simpa using hblank⟩
  · exact last_trimmedEnd hne

theorem trimmed_trimmed (cs : List Char) : trimmed (trimmed cs) = trimmed cs := by
  by_cases hne : trimmed cs = []
  · rw [hne, trimmed_nil]
  · exact (isTight_trimmed hne).trimmed_eq

/-- What is cut off the end is white space. -/
theorem exists_trimmedEnd_append (cs : List Char) :
    ∃ blanks, cs = trimmedEnd cs ++ blanks ∧ ∀ c ∈ blanks, isBlank c = true := by
  refine ⟨(cs.reverse.takeWhile isBlank).reverse, ?_, fun c hc => ?_⟩
  · unfold trimmedEnd dropEndWhile
    rw [← List.reverse_append, List.takeWhile_append_dropWhile, List.reverse_reverse]
  · exact List.all_eq_true.1 List.all_takeWhile c (List.mem_reverse.1 hc)

/-- The first character stays when the end is cut, unless it is white space. -/
theorem head?_trimmedEnd {c : Char} (h : isBlank c = false) (cs : List Char) :
    (trimmedEnd cs).head? = some c ↔ cs.head? = some c := by
  obtain ⟨blanks, hcs, hblanks⟩ := exists_trimmedEnd_append cs
  conv => rhs; rw [hcs, List.head?_append]
  cases hhead : (trimmedEnd cs).head? with
  | some d => rw [Option.some_or]
  | none =>
    rw [Option.none_or]
    refine iff_of_false (fun hc => by cases hc) fun hc => ?_
    rw [hblanks c (List.mem_of_head? hc)] at h
    cases h

/-! ## The first separator -/

theorem cutAt_append {sep : Char} {cs : List Char} (h : sep ∉ cs) (ds : List Char) :
    cutAt sep (cs ++ sep :: ds) = some (cs, ds) := by
  induction cs with
  | nil => simp [cutAt]
  | cons c cs ih =>
    have hc : c ≠ sep := by
      rintro rfl
      exact h List.mem_cons_self
    rw [List.cons_append, cutAt, if_neg hc, ih fun hmem => h (List.mem_cons_of_mem c hmem)]
    rfl

theorem eq_of_cutAt {sep : Char} {cs before after : List Char}
    (h : cutAt sep cs = some (before, after)) : cs = before ++ sep :: after ∧ sep ∉ before := by
  induction cs generalizing before with
  | nil => cases h
  | cons c cs ih =>
    rw [cutAt] at h
    split at h
    · next hc =>
      cases h
      rw [hc]
      exact ⟨rfl, List.not_mem_nil⟩
    · next hc =>
      obtain ⟨⟨front, back⟩, hcut, heq⟩ := Option.map_eq_some_iff.1 h
      cases heq
      obtain ⟨rfl, hno⟩ := ih hcut
      exact ⟨rfl, fun hmem => (List.mem_cons.1 hmem).elim (fun he => hc he.symm) hno⟩

theorem cutAt_of_not_mem {sep : Char} {cs : List Char} (h : sep ∉ cs) : cutAt sep cs = none := by
  cases hcut : cutAt sep cs with
  | none => rfl
  | some parts =>
    obtain ⟨hcs, -⟩ := eq_of_cutAt hcut
    rw [hcs] at h
    exact absurd (List.mem_append_right _ List.mem_cons_self) h

/-- The text before the first separator, and the text after it. -/
theorem cutAt_of_mem {sep : Char} {cs : List Char} (h : sep ∈ cs) :
    cutAt sep cs = some (cs.takeWhile (· != sep), (cs.dropWhile (· != sep)).tail) := by
  induction cs with
  | nil => exact absurd h List.not_mem_nil
  | cons c cs ih =>
    rw [cutAt]
    split
    · next hc =>
      rw [List.takeWhile_cons_of_neg (by simp [hc]), List.dropWhile_cons_of_neg (by simp [hc])]
      rfl
    · next hc =>
      have hmem : sep ∈ cs := (List.mem_cons.1 h).resolve_left (Ne.symm hc)
      rw [ih hmem, List.takeWhile_cons_of_pos (by simp [hc]), List.dropWhile_cons_of_pos (by simp [hc])]
      rfl

theorem after?_ne_none_iff {lead cs : List Char} : after? lead cs ≠ none ↔ lead <+: cs := by
  induction lead generalizing cs with
  | nil => exact iff_of_true (Option.some_ne_none cs) List.nil_prefix
  | cons a lead ih =>
    cases cs with
    | nil => simp [after?]
    | cons c cs =>
      rw [after?, List.cons_prefix_cons]
      split
      · next hac => rw [ih, and_iff_right hac]
      · next hac => exact iff_of_false (fun hne => hne rfl) fun hpre => hac hpre.1

theorem after?_eq_some_iff {lead cs rest : List Char} : after? lead cs = some rest ↔ cs = lead ++ rest := by
  induction lead generalizing cs with
  | nil => rw [after?, Option.some.injEq, List.nil_append]
  | cons a lead ih =>
    cases cs with
    | nil => simp [after?]
    | cons c cs =>
      rw [after?, List.cons_append, List.cons.injEq]
      split
      · next hac => rw [ih, and_iff_right hac.symm]
      · next hac => exact iff_of_false nofun fun heq => hac heq.1.symm

/-! ## Lines -/

theorem not_of_mem_pieces {p : Char → Bool} {cs piece : List Char} (h : piece ∈ pieces p cs) :
    ∀ c ∈ piece, p c = false := by
  induction cs generalizing piece with
  | nil =>
    rw [List.mem_singleton.1 h]
    exact fun c hc => absurd hc List.not_mem_nil
  | cons c cs ih =>
    rw [pieces] at h
    split at h
    · rcases List.mem_cons.1 h with rfl | h
      · exact fun d hd => absurd hd List.not_mem_nil
      · exact ih h
    · next hc =>
      have hc : p c = false := Bool.not_eq_true _ ▸ hc
      cases hrest : pieces p cs with
      | nil => exact absurd hrest (pieces_ne_nil p cs)
      | cons first rest =>
        rw [hrest] at h ih
        rcases List.mem_cons.1 h with rfl | h
        · exact List.forall_mem_cons.2 ⟨hc, ih List.mem_cons_self⟩
        · exact ih (List.mem_cons_of_mem first h)

/-- No line holds a line feed. -/
theorem not_mem_of_mem_lineList {cs line : List Char} (h : line ∈ lineList cs) : '\n' ∉ line := by
  have hpieces {piece : List Char} (hmem : piece ∈ pieces (· == '\n') cs) : '\n' ∉ piece :=
    fun hfeed => Bool.false_ne_true (not_of_mem_pieces hmem '\n' hfeed).symm
  unfold lineList at h
  rcases List.mem_append.1 h with h | h
  · obtain ⟨piece, hpiece, rfl⟩ := List.mem_map.1 h
    have hno := hpieces ((List.dropLast_sublist _).mem hpiece)
    unfold dropReturn
    split
    · exact fun hmem => hno ((List.dropLast_sublist _).mem hmem)
    · exact hno
  · have hlast := (List.mem_filter.1 h).1
    exact hpieces (List.mem_of_getLast? (Option.mem_toList.1 hlast))

theorem pieces_append {p : Char → Bool} {cs : List Char} (h : ∀ c ∈ cs, p c = false) {sep : Char}
    (hsep : p sep = true) (ds : List Char) : pieces p (cs ++ sep :: ds) = cs :: pieces p ds := by
  induction cs with
  | nil => simp [pieces, hsep]
  | cons c cs ih =>
    have hc := h c List.mem_cons_self
    rw [List.cons_append, pieces, if_neg (by simp [hc]),
      ih fun d hd => h d (List.mem_cons_of_mem c hd)]

theorem pieces_of_not {p : Char → Bool} {cs : List Char} (h : ∀ c ∈ cs, p c = false) :
    pieces p cs = [cs] := by
  induction cs with
  | nil => rfl
  | cons c cs ih =>
    obtain ⟨hc, hcs⟩ := List.forall_mem_cons.1 h
    rw [pieces, if_neg (by simp [hc]), ih hcs]

theorem ne_feed_of_not_mem {cs : List Char} (h : '\n' ∉ cs) : ∀ c ∈ cs, (c == '\n') = false := by
  intro c hc
  rw [beq_eq_false_iff_ne]
  rintro rfl
  exact h hc

/-- Each line of a list with a line feed after it. -/
def joinLines (ls : List (List Char)) : List Char := ls.flatMap (· ++ ['\n'])

theorem pieces_joinLines {ls : List (List Char)} (h : ∀ l ∈ ls, '\n' ∉ l) :
    pieces (· == '\n') (joinLines ls) = ls ++ [[]] := by
  induction ls with
  | nil => rfl
  | cons l ls ih =>
    have hl := ne_feed_of_not_mem (h l List.mem_cons_self)
    unfold joinLines at ih ⊢
    rw [List.flatMap_cons, List.append_assoc, List.singleton_append, pieces_append hl rfl,
      ih fun m hm => h m (List.mem_cons_of_mem l hm)]
    rfl

theorem dropReturn_of_last {cs : List Char} (h : ∃ c, cs.getLast? = some c ∧ isBlank c = false) :
    dropReturn cs = cs := by
  obtain ⟨c, hc, hblank⟩ := h
  have hne : cs.getLast? ≠ some '\r' := by
    rw [hc]
    rintro ⟨⟩
    revert hblank
    decide
  exact if_neg hne

/-- Lines without line feeds that do not end in white space come back as they were joined. -/
theorem lineList_joinLines {ls : List (List Char)} (hfeed : ∀ l ∈ ls, '\n' ∉ l)
    (hend : ∀ l ∈ ls, ∃ c, l.getLast? = some c ∧ isBlank c = false) :
    lineList (joinLines ls) = ls := by
  unfold lineList
  rw [pieces_joinLines hfeed]
  have hmap : ls.map dropReturn = ls := by
    rw [List.map_congr_left fun l hl => dropReturn_of_last (hend l hl)]
    exact List.map_id _
  simp [hmap]

/-- A line feed ends a line, and the other lines are those of the text after it. -/
theorem lineList_append_feed {line : List Char} (h : '\n' ∉ line) (rest : List Char) :
    lineList (line ++ '\n' :: rest) = dropReturn line :: lineList rest := by
  unfold lineList
  rw [pieces_append (ne_feed_of_not_mem h) rfl]
  cases hrest : pieces (· == '\n') rest with
  | nil => exact absurd hrest (pieces_ne_nil _ rest)
  | cons p ps =>
    dsimp only
    rw [List.dropLast_cons_cons, List.getLast?_cons_cons, List.map_cons, List.cons_append]

theorem length_lineList_le_one {cs : List Char} (h : '\n' ∉ cs) : (lineList cs).length ≤ 1 := by
  unfold lineList
  rw [pieces_of_not (ne_feed_of_not_mem h)]
  exact List.length_filter_le _ _

/-! ## The first lines -/

/-- The text up to the end of its `n`-th line. -/
def firstLines : Nat → List Char → List Char
  | 0, _ => []
  | _, [] => []
  | n + 1, c :: cs => if c = '\n' then c :: firstLines n cs else c :: firstLines (n + 1) cs

theorem firstLines_append_feed {line : List Char} (h : '\n' ∉ line) (n : Nat) (rest : List Char) :
    firstLines (n + 1) (line ++ '\n' :: rest) = line ++ '\n' :: firstLines n rest := by
  induction line with
  | nil => exact if_pos rfl
  | cons c line ih =>
    obtain ⟨hc, hline⟩ := not_or.1 (mt List.mem_cons.2 h)
    rw [List.cons_append, firstLines, if_neg (Ne.symm hc), ih hline, List.cons_append]

theorem firstLines_of_not_mem {cs : List Char} (h : '\n' ∉ cs) (n : Nat) : firstLines (n + 1) cs = cs := by
  induction cs with
  | nil => rfl
  | cons c cs ih =>
    obtain ⟨hc, hcs⟩ := not_or.1 (mt List.mem_cons.2 h)
    rw [firstLines, if_neg (Ne.symm hc), ih hcs]

/-- A cut at the end of a line keeps the lines before it. -/
theorem lineList_firstLines (n : Nat) (cs : List Char) : lineList (firstLines n cs) = (lineList cs).take n := by
  induction n generalizing cs with
  | zero =>
    rw [firstLines, List.take_zero]
    rfl
  | succ n ih =>
    by_cases hfeed : '\n' ∈ cs
    · obtain ⟨line, rest, rfl, hline⟩ := List.eq_append_cons_of_mem hfeed
      rw [firstLines_append_feed hline, lineList_append_feed hline, lineList_append_feed hline, ih,
        List.take_succ_cons]
    · have hone := length_lineList_le_one hfeed
      rw [firstLines_of_not_mem hfeed, List.take_of_length_le (by omega)]

end RecordDesk.Text
