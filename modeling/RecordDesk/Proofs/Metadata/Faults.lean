import RecordDesk.Proofs.Metadata.Grammar

/-!
Which line a fault names. Indentation is looked at first, in the whole text, and the first line that is not
indented as it should be is the one that is named (`read_of_misindented`). Where every line is, reading comes
to a stop at some line (`exists_stop`): the lines before it are read, and with it they are not.
-/

namespace RecordDesk.Metadata

/-! ## Indentation -/

/-- A line that is not blank. -/
def IsSolid (raw : List Char) : Prop := ∃ c ∈ raw, Text.isBlank c = false

/-- A line with a tab after the spaces in front of it, or with an odd number of these. -/
def Misindented (raw : List Char) : Prop :=
  IsSolid raw ∧ ((raw.dropWhile (· == ' ')).head? = some '\t' ∨ leading raw % 2 = 1)

/-- The fault of such a line; a tab comes before an odd number. -/
def indentFault (raw : List Char) : LineFault :=
  if (raw.dropWhile (· == ' ')).head? = some '\t' then .tabIndent else .oddIndent (leading raw)

instance : DecidablePred IsSolid := fun raw => List.decidableBEx (Text.isBlank · = false) raw

instance : DecidablePred Misindented := fun raw =>
  inferInstanceAs (Decidable (IsSolid raw ∧ _))

theorem isSolid_iff {raw : List Char} : IsSolid raw ↔ Text.trimmedEnd raw ≠ [] := by
  unfold IsSolid Text.trimmedEnd Text.dropEndWhile
  rw [Ne, List.reverse_eq_nil_iff, List.dropWhile_eq_nil_iff]
  simp

variable {raw : List Char} {number : Nat}

/-- White space at the end of a line that is not blank does not touch its indentation. -/
theorem leading_trimmedEnd (h : IsSolid raw) : leading (Text.trimmedEnd raw) = leading raw := by
  obtain ⟨tail, htail⟩ := Text.prefix_trimmedEnd raw
  have hdrop := dropWhile_ne_nil (isSolid_iff.1 h)
  unfold leading
  conv => rhs; rw [← htail]
  rw [List.takeWhile_append, if_neg]
  intro hlength
  -- If the spaces were all there is, nothing would be left behind them.
  have hsplit := congrArg List.length (List.takeWhile_append_dropWhile (p := (· == ' ')) (l := Text.trimmedEnd raw))
  rw [List.length_append, hlength] at hsplit
  exact hdrop (List.length_eq_zero_iff.1 (by omega))

theorem head?_trimmedEnd (h : IsSolid raw) :
    ((Text.trimmedEnd raw).dropWhile (· == ' ')).head? = (raw.dropWhile (· == ' ')).head? := by
  obtain ⟨tail, htail⟩ := Text.prefix_trimmedEnd raw
  have hdrop := dropWhile_ne_nil (isSolid_iff.1 h)
  conv => rhs; rw [← htail]
  rw [List.dropWhile_append, if_neg fun hempty => hdrop (List.isEmpty_iff.1 hempty),
    List.head?_append_of_ne_nil _ hdrop]

theorem isIndented_iff (h : IsSolid raw) : IsIndented (Text.trimmedEnd raw) ↔ ¬ Misindented raw := by
  unfold Misindented
  rw [← leading_trimmedEnd h, ← head?_trimmedEnd h]
  constructor
  · rintro ⟨heven, htab⟩ ⟨-, htab' | hodd⟩
    · exact htab htab'
    · omega
  · intro hfine
    have hodd : ¬ leading (Text.trimmedEnd raw) % 2 = 1 := fun hodd => hfine ⟨h, .inr hodd⟩
    exact ⟨by omega, fun htab => hfine ⟨h, .inl htab⟩⟩

theorem ofText?_of_misindented (h : Misindented raw) (number : Nat) :
    Line.ofText? number raw = .error ⟨number, indentFault raw⟩ := by
  obtain ⟨hsolid, hfault⟩ := h
  have hdrop := dropWhile_ne_nil (isSolid_iff.1 hsolid)
  unfold indentFault
  rw [← leading_trimmedEnd hsolid, ← head?_trimmedEnd hsolid] at hfault ⊢
  unfold Line.ofText?
  dsimp only
  cases hcontent : (Text.trimmedEnd raw).dropWhile (· == ' ') with
  | nil => exact absurd hcontent hdrop
  | cons c rest =>
    rw [hcontent] at hfault
    dsimp only
    have hhead : (c :: rest).head? = some '\t' ↔ c = '\t' := Option.some_inj
    by_cases htab : c = '\t'
    · rw [if_pos htab, if_pos (hhead.2 htab)]
    · have hodd := hfault.resolve_left (mt hhead.1 htab)
      unfold leading at hodd ⊢
      rw [if_neg htab, if_pos (by omega), if_neg (mt hhead.1 htab)]

theorem exists_ofText? (h : ¬ Misindented raw) (number : Nat) :
    ∃ line, Line.ofText? number raw = .ok line := by
  by_cases hraw : Text.trimmedEnd raw = []
  · exact ⟨none, ofText?_of_blank hraw number⟩
  · exact ⟨_, (ofText?_eq_ok_iff hraw).2 ⟨(isIndented_iff (isSolid_iff.2 hraw)).2 h, rfl⟩⟩

/-- The first line that is not indented as it should be ends the measuring. -/
theorem listFrom_of_misindented {before after : List (List Char)} (hbefore : ∀ b ∈ before, ¬ Misindented b)
    (h : Misindented raw) (number : Nat) :
    Line.listFrom number (before ++ raw :: after) = .error ⟨number + before.length, indentFault raw⟩ := by
  induction before generalizing number with
  | nil =>
    rw [List.nil_append, Line.listFrom, ofText?_of_misindented h]
    rfl
  | cons b before ih =>
    obtain ⟨hb, hbefore⟩ := List.forall_mem_cons.1 hbefore
    obtain ⟨line, hline⟩ := exists_ofText? hb number
    rw [List.cons_append, Line.listFrom, hline, ih hbefore, List.length_cons, Nat.add_right_comm]
    rfl

theorem read_of_misindented {s : String} {before after : List (List Char)}
    (hs : Text.lineList s.toList = before ++ raw :: after) (hbefore : ∀ b ∈ before, ¬ Misindented b)
    (h : Misindented raw) : Tree.read s = .error ⟨before.length + 1, indentFault raw⟩ := by
  unfold Tree.read
  rw [hs, listFrom_of_misindented hbefore h, Nat.add_comm]
  rfl

/-! ## Where reading stops -/

theorem isIndented_of_mem {raws : List (List Char)} (h : ∀ raw ∈ raws, ¬ Misindented raw) (number : Nat) :
    ∀ row ∈ solidLines number raws, IsIndented row.1 := by
  intro row hrow
  obtain ⟨raw, hraw, heq⟩ := eq_trimmedEnd_of_mem hrow
  have hne : row.1 ≠ [] := of_decide_eq_true (List.mem_filter.1 hrow).2
  rw [heq] at hne ⊢
  exact (isIndented_iff (isSolid_iff.2 hne)).2 (h raw hraw)

/-- The outline of some lines, taken in one after the other. -/
def outlineFrom (o : Outline) (number : Nat) (raws : List (List Char)) : Except LineError Outline :=
  ((solidLines number raws).map Line.measure).foldlM Outline.add o

theorem outlineFrom_cons_blank (h : Text.trimmedEnd raw = []) (o : Outline) (number : Nat)
    (raws : List (List Char)) : outlineFrom o number (raw :: raws) = outlineFrom o (number + 1) raws := by
  unfold outlineFrom
  rw [solidLines_cons, if_pos h]

theorem outlineFrom_cons_solid (h : Text.trimmedEnd raw ≠ []) (o : Outline) (number : Nat)
    (raws : List (List Char)) :
    outlineFrom o number (raw :: raws) =
      (o.add (Line.measure (Text.trimmedEnd raw, number))).bind fun o => outlineFrom o (number + 1) raws := by
  unfold outlineFrom
  rw [solidLines_cons, if_neg h, List.map_cons, List.foldlM_cons]
  rfl

/-- A text without faults of indentation is read line by line. -/
theorem read_eq_outlineFrom {s : String} (h : ∀ raw ∈ Text.lineList s.toList, ¬ Misindented raw) :
    Tree.read s = (outlineFrom .empty 1 (Text.lineList s.toList)).map Outline.toTree := by
  unfold Tree.read outlineFrom
  rw [listFrom_eq_ok_iff.2 ⟨isIndented_of_mem h 1, rfl⟩]
  dsimp only [bind, Except.bind]
  cases ((solidLines 1 (Text.lineList s.toList)).map Line.measure).foldlM Outline.add .empty with
  | error e => rfl
  | ok o => rfl

/-- The line that is not taken in is the one that is named. -/
theorem line_of_add {o : Outline} {line : Line} {e : LineError} (h : o.add line = .error e) :
    e.line = line.number := by
  unfold Outline.add at h
  split at h
  · cases h
    rfl
  · cases hput : (o.closeTo line.depth).put line with
    | ok o' =>
      rw [hput] at h
      cases h
    | error fault =>
      rw [hput] at h
      cases h
      rfl

/-- A fault is that of one line: those before it are taken in, and what comes after it does not count. -/
theorem exists_stop {raws : List (List Char)} {o : Outline} {e : LineError}
    (h : outlineFrom o number raws = .error e) :
    ∃ before raw after o', raws = before ++ raw :: after ∧ IsSolid raw ∧ e.line = number + before.length ∧
      outlineFrom o number before = .ok o' ∧ outlineFrom o number (before ++ [raw]) = .error e := by
  induction raws generalizing number o with
  | nil => cases h
  | cons raw rest ih =>
    by_cases hraw : Text.trimmedEnd raw = []
    · rw [outlineFrom_cons_blank hraw] at h
      obtain ⟨before, stop, after, o', rfl, hsolid, hline, hbefore, hstop⟩ := ih h
      refine ⟨raw :: before, stop, after, o', rfl, hsolid, ?_, ?_, ?_⟩
      · rw [hline, List.length_cons, Nat.add_right_comm, Nat.add_assoc]
      · rw [outlineFrom_cons_blank hraw, hbefore]
      · rw [List.cons_append, outlineFrom_cons_blank hraw, hstop]
    · rw [outlineFrom_cons_solid hraw] at h
      cases hadd : o.add (Line.measure (Text.trimmedEnd raw, number)) with
      | error fault =>
        rw [hadd] at h
        cases h
        refine ⟨[], raw, rest, o, rfl, isSolid_iff.2 hraw, line_of_add hadd, rfl, ?_⟩
        rw [List.nil_append, outlineFrom_cons_solid hraw, hadd]
        rfl
      | ok next =>
        rw [hadd] at h
        obtain ⟨before, stop, after, o', rfl, hsolid, hline, hbefore, hstop⟩ := ih h
        refine ⟨raw :: before, stop, after, o', rfl, hsolid, ?_, ?_, ?_⟩
        · rw [hline, List.length_cons, Nat.add_right_comm, Nat.add_assoc]
        · rw [outlineFrom_cons_solid hraw, hadd]
          exact hbefore
        · rw [List.cons_append, outlineFrom_cons_solid hraw, hadd]
          exact hstop

/-- The text up to the end of a line. -/
def upToLine (s : String) (line : Nat) : String := .ofList (Text.firstLines line s.toList)

theorem lineList_upToLine (s : String) (line : Nat) :
    Text.lineList (upToLine s line).toList = (Text.lineList s.toList).take line := by
  unfold upToLine
  rw [String.toList_ofList, Text.lineList_firstLines]

/-- A fault names the first line that is at fault. If there is a line that is not indented as it should be,
the first of these is named, whatever else is wrong in the text. Otherwise the text before the line that is
named is read, and up to its end the text has the very same fault. -/
theorem fault_names_first_line (s : String) :
    ((∃ raw ∈ Text.lineList s.toList, Misindented raw) →
      ∃ before raw after, Text.lineList s.toList = before ++ raw :: after ∧
        (∀ b ∈ before, ¬ Misindented b) ∧ Misindented raw ∧
        Tree.read s = .error ⟨before.length + 1, indentFault raw⟩) ∧
    ((¬ ∃ raw ∈ Text.lineList s.toList, Misindented raw) → ∀ e, Tree.read s = .error e →
      ∃ before raw after t, Text.lineList s.toList = before ++ raw :: after ∧
        e.line = before.length + 1 ∧ IsSolid raw ∧
        Tree.read (upToLine s (e.line - 1)) = .ok t ∧ Tree.read (upToLine s e.line) = .error e) := by
  constructor
  · rintro ⟨bad, hmem, hbad⟩
    have hsome : ((Text.lineList s.toList).find? fun raw => Misindented raw).isSome = true :=
      List.find?_isSome.2 ⟨bad, hmem, decide_eq_true hbad⟩
    obtain ⟨raw, hraw⟩ := Option.isSome_iff_exists.1 hsome
    obtain ⟨hfirst, before, after, hs, hbefore⟩ := List.find?_eq_some_iff_append.1 hraw
    have hfirst : Misindented raw := of_decide_eq_true hfirst
    have hbefore : ∀ b ∈ before, ¬ Misindented b := fun b hb => by simpa using hbefore b hb
    exact ⟨before, raw, after, hs, hbefore, hfirst, read_of_misindented hs hbefore hfirst⟩
  · intro hnone e he
    have hfine : ∀ raw ∈ Text.lineList s.toList, ¬ Misindented raw := fun raw hraw hbad =>
      hnone ⟨raw, hraw, hbad⟩
    -- A text cut after a line has no fault of indentation either.
    have hcut (line : Nat) : Tree.read (upToLine s line) =
        (outlineFrom .empty 1 ((Text.lineList s.toList).take line)).map Outline.toTree := by
      rw [← lineList_upToLine]
      refine read_eq_outlineFrom fun raw hraw => hfine raw ?_
      rw [lineList_upToLine] at hraw
      exact List.mem_of_mem_take hraw
    have herror : outlineFrom .empty 1 (Text.lineList s.toList) = .error e := by
      rw [read_eq_outlineFrom hfine] at he
      cases hread : outlineFrom .empty 1 (Text.lineList s.toList) with
      | error e' =>
        rw [hread] at he
        cases he
        rfl
      | ok o =>
        rw [hread] at he
        cases he
    obtain ⟨before, raw, after, o, hs, hsolid, hline, hbefore, hstop⟩ := exists_stop herror
    refine ⟨before, raw, after, o.toTree, hs, by omega, hsolid, ?_, ?_⟩
    · have htake : (before ++ raw :: after).take (e.line - 1) = before := List.take_left' (by omega)
      rw [hcut, hs, htake, hbefore]
      rfl
    · have htake : (before ++ raw :: after).take e.line = before ++ [raw] := by
        rw [List.append_cons]
        exact List.take_left' (by rw [List.length_append, List.length_singleton]; omega)
      rw [hcut, hs, htake, hstop]
      rfl

/-- In the first text a list item stands before the line that is not indented as it should be, and a tab
after it. In the second one a blank line counts, and the line after the named one is at fault, too. -/
theorem fault_names_thirdLine :
    let s := "- x\n \n   k: 1\n \tb: 2\n"
    let s' := "a:\n\n  b\nc\n"
    (∃ before raw after, Text.lineList s.toList = before ++ raw :: after ∧
      (∀ b ∈ before, ¬ Misindented b) ∧ Misindented raw ∧
      Tree.read s = .error ⟨before.length + 1, indentFault raw⟩) ∧
    Tree.read s = .error ⟨3, .oddIndent 3⟩ ∧
    Tree.read s' = .error ⟨3, .missingColon⟩ ∧ upToLine s' 2 = "a:\n\n" ∧
    (∃ t, Tree.read (upToLine s' 2) = .ok t) ∧ Tree.read (upToLine s' 3) = .error ⟨3, .missingColon⟩ := by
  intro s s'
  have hsome : ∃ raw ∈ Text.lineList s.toList, Misindented raw := by decide +kernel
  have hnone : ¬ ∃ raw ∈ Text.lineList s'.toList, Misindented raw := by decide +kernel
  have hread : Tree.read s' = .error ⟨3, .missingColon⟩ := by decide +kernel
  have hfirst := (fault_names_first_line s).1 hsome
  obtain ⟨_, _, _, t, _, _, _, hbefore, hstop⟩ := (fault_names_first_line s').2 hnone _ hread
  exact ⟨hfirst, by decide +kernel, hread, by decide +kernel, ⟨t, hbefore⟩, hstop⟩

end RecordDesk.Metadata
