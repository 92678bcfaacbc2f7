import RecordDesk.Proofs.Text.Cutting
import RecordDesk.Text.Lower

/-!
Lower-casing settles a text: a second time it changes nothing (`lowered_lowered`), since no character is moved onto one
that moves itself. White space and hash marks stay where they are and no new ones come up, so that it does not matter
whether they are cut off the front before or after (`dropWhile_lowerFrom`).

What the table of lower-case forms has to do with it is looked up once, run by run: `misses_caseRuns` and
`lands_caseRuns`.
-/

namespace RecordDesk.Text

/-! ## The table -/

namespace CodeShift

variable {r s : CodeShift} {n : Nat}

/-- Where the run moves a code point. -/
def image (r : CodeShift) (n : Nat) : Nat := ((n : Int) + r.shift).toNat

/-- The code points that the run covers. -/
def points (r : CodeShift) : List Nat := List.range' r.first ((r.last - r.first) / r.step + 1) r.step

theorem bounds_of_covers (h : r.covers n = true) : r.first ≤ n ∧ n ≤ r.last := by
  simp only [covers, Bool.and_eq_true, decide_eq_true_eq] at h
  exact h.1

theorem mem_points (h : r.covers n = true) : n ∈ r.points := by
  obtain ⟨hfirst, hlast⟩ := bounds_of_covers h
  simp only [covers, Bool.and_eq_true, beq_iff_eq] at h
  refine List.mem_range'.2 ⟨(n - r.first) / r.step, ?_, ?_⟩
  · exact Nat.lt_succ_of_le (Nat.div_le_div_right (by omega))
  · have hn := Nat.div_add_mod (n - r.first) r.step
    omega

theorem image_mono {m : Nat} (h : m ≤ n) : r.image m ≤ r.image n := by
  unfold image
  omega

/-- No code point of the first run moves to one of the second. Most runs lie apart, so that only few are gone
through point by point. -/
def misses (r s : CodeShift) : Bool :=
  Nat.blt (r.image r.last) s.first || Nat.blt s.last (r.image r.first) ||
    r.points.all fun n => !s.covers (r.image n)

theorem not_covers_image (h : r.misses s = true) (hn : r.covers n = true) : ¬s.covers (r.image n) = true := by
  intro hs
  obtain ⟨hfirst, hlast⟩ := bounds_of_covers hn
  obtain ⟨hfirst', hlast'⟩ := bounds_of_covers hs
  simp only [misses, Bool.or_eq_true, Nat.blt_eq, List.all_eq_true] at h
  rcases h with (hbelow | habove) | hpoints
  · have hmono := image_mono (r := r) hlast
    omega
  · have hmono := image_mono (r := r) hfirst
    omega
  · have hmiss := hpoints n (mem_points hn)
    rw [hs] at hmiss
    exact Bool.false_ne_true hmiss

end CodeShift

/-- The characters that may be cut off the front of a label. -/
def isPlain (c : Char) : Bool := isBlank c || c == '#'

/-- A code point moves to a character, and to none of those that move without the table; neither of the two is
plain. -/
def CodeShift.lands (r : CodeShift) (n : Nat) : Bool :=
  decide (r.image n).isValidChar && Nat.blt 90 (r.image n) && r.image n != 0x130 && !isPlain (.ofNat n) &&
    !isPlain (.ofNat (r.image n))

theorem misses_caseRuns : (caseRuns.all fun r => caseRuns.all fun s => r.misses s) = true := by decide +kernel

theorem lands_caseRuns : (caseRuns.all fun r => r.points.all fun n => r.lands n) = true := by decide +kernel

/-- What the table says of one code point that it moves. -/
structure Moved (n m : Nat) : Prop where
  valid : m.isValidChar
  stays : ∀ s ∈ caseRuns, ¬s.covers m = true
  above : 90 < m
  ne : m ≠ 0x130
  plain : isPlain (.ofNat n) = false
  plain' : isPlain (.ofNat m) = false

theorem moved_of_covers {r : CodeShift} {n : Nat} (hr : r ∈ caseRuns) (hn : r.covers n = true) :
    Moved n (r.image n) := by
  have hlands := List.all_eq_true.1 (List.all_eq_true.1 lands_caseRuns r hr) n (CodeShift.mem_points hn)
  simp only [CodeShift.lands, Bool.and_eq_true, decide_eq_true_eq, Nat.blt_eq, bne_iff_ne, Bool.not_eq_true'] at hlands
  obtain ⟨⟨⟨⟨hvalid, habove⟩, hne⟩, hplain⟩, hplain'⟩ := hlands
  have hstays (s : CodeShift) (hs : s ∈ caseRuns) : ¬s.covers (r.image n) = true :=
    CodeShift.not_covers_image (List.all_eq_true.1 (List.all_eq_true.1 misses_caseRuns r hr) s hs) hn
  exact ⟨hvalid, hstays, habove, hne, hplain, hplain'⟩

/-! ## One character -/

variable {c d : Char}

theorem shifted?_eq_none (h : ∀ r ∈ caseRuns, ¬r.covers c.toNat = true) : shifted? caseRuns c = none := by
  unfold shifted?
  rw [List.find?_eq_none.2 h, Option.map_none]

theorem moved_of_shifted? (h : shifted? caseRuns c = some d) : ∃ m, Moved c.toNat m ∧ d = Char.ofNat m := by
  obtain ⟨r, hr, rfl⟩ := Option.map_eq_some_iff.1 h
  have hcovers : r.covers c.toNat = true := List.find?_some (p := fun r : CodeShift => r.covers c.toNat) hr
  exact ⟨_, moved_of_covers (List.mem_of_find?_eq_some hr) hcovers, rfl⟩

/-- How a character comes by its lower-case form. -/
inductive LowersTo (c : Char) : Char → Prop where
  | ascii (h : c.toNat < 128) : LowersTo c c.toLower
  | dotted {d : Char} (h : d = 'i' ∨ d = '\u0307') : LowersTo c d
  | moved {m : Nat} (h : Moved c.toNat m) : LowersTo c (.ofNat m)
  | stay (h : lowerChar c = [c]) : LowersTo c c

theorem lowersTo_of_mem (h : d ∈ lowerChar c) : LowersTo c d := by
  unfold lowerChar at h
  split at h
  · next hascii =>
    rw [List.mem_singleton.1 h]
    exact .ascii hascii
  · next hascii =>
    split at h
    · exact .dotted ((List.mem_cons.1 h).imp id List.mem_singleton.1)
    · next hdotted =>
      rw [List.mem_singleton.1 h]
      cases hshift : shifted? caseRuns c with
      | none =>
        refine .stay ?_
        unfold lowerChar
        rw [if_neg hascii, if_neg hdotted, hshift, Option.getD_none]
      | some d =>
        obtain ⟨m, hm, rfl⟩ := moved_of_shifted? hshift
        exact .moved hm

/-- Below U+0080, a form has itself as its form, is plain only when the character is, and so does not change when the
character stands above the capital letters. -/
theorem settled_ascii : ∀ n < 128, ∀ c, c = Char.ofNat n →
    lowerChar c.toLower = [c.toLower] ∧ (isPlain c = true ∨ 90 < n → c.toLower = c) ∧
      (isPlain c.toLower = true → c.toLower = c) := by
  simp only [forall_eq]
  decide +kernel

theorem toNat_ofNat {n : Nat} (h : n.isValidChar) : (Char.ofNat n).toNat = n := by
  unfold Char.ofNat
  rw [dif_pos h]
  rfl

theorem lowerChar_ofNat_of_moved {n m : Nat} (h : Moved n m) : lowerChar (.ofNat m) = [.ofNat m] := by
  have hm := toNat_ofNat h.valid
  unfold lowerChar
  rw [hm]
  split
  · next hascii => rw [(settled_ascii m hascii _ rfl).2.1 (.inr h.above)]
  · rw [if_neg, shifted?_eq_none, Option.getD_none]
    · intro r hr
      rw [hm]
      exact h.stays r hr
    · intro hdotted
      rw [hdotted] at hm
      exact h.ne hm.symm

/-- A form has itself as its form. -/
theorem lowerChar_of_mem (h : d ∈ lowerChar c) : lowerChar d = [d] := by
  cases lowersTo_of_mem h with
  | ascii hascii => exact (settled_ascii c.toNat hascii c (Char.ofNat_toNat c).symm).1
  | dotted hd =>
    rcases hd with rfl | rfl
    · decide +kernel
    · decide +kernel
  | moved hm => exact lowerChar_ofNat_of_moved hm
  | stay hc => exact hc

/-- A form is plain only when the character is. -/
theorem eq_of_mem_lowerChar (h : d ∈ lowerChar c) (hd : isPlain d = true) : d = c := by
  cases lowersTo_of_mem h with
  | ascii hascii => exact (settled_ascii c.toNat hascii c (Char.ofNat_toNat c).symm).2.2 hd
  | dotted hform =>
    rcases hform with rfl | rfl
    · exact absurd hd (by decide)
    · exact absurd hd (by decide)
  | moved hm =>
    rw [hm.plain'] at hd
    cases hd
  | stay => rfl

theorem lowerChar_ne_nil (c : Char) : lowerChar c ≠ [] := by
  unfold lowerChar
  split
  · exact List.cons_ne_nil _ _
  · split
    · exact List.cons_ne_nil _ _
    · exact List.cons_ne_nil _ _

/-- Plain characters stay. -/
theorem lowerChar_of_isPlain (h : isPlain c = true) : lowerChar c = [c] := by
  unfold lowerChar
  split
  · next hascii => rw [(settled_ascii c.toNat hascii c (Char.ofNat_toNat c).symm).2.1 (.inl h)]
  · rw [if_neg, shifted?_eq_none, Option.getD_none]
    · intro r hr hcovers
      have hplain := (moved_of_covers hr hcovers).plain
      rw [Char.ofNat_toNat, h] at hplain
      cases hplain
    · rintro rfl
      revert h
      decide

/-! ## Texts -/

/-- The form of a character between two texts. -/
def lowerAt (before : List Char) (c : Char) (after : List Char) : List Char :=
  if c = 'Σ' then [if meetsCased before && !meetsCased after then 'ς' else 'σ'] else lowerChar c

variable {before after cs : List Char}

theorem lowerFrom_cons (before : List Char) (c : Char) (cs : List Char) :
    lowerFrom before (c :: cs) = lowerAt before c cs ++ lowerFrom (c :: before) cs := rfl

/-- The two forms of a capital sigma are in lower case, and not plain. -/
theorem mem_lowerAt (h : d ∈ lowerAt before c after) : lowerChar d = [d] ∧ (isPlain d = true → d = c) := by
  unfold lowerAt at h
  split at h
  · split at h
    · obtain rfl := List.mem_singleton.1 h
      exact ⟨by decide +kernel, fun hd => absurd hd (by decide)⟩
    · obtain rfl := List.mem_singleton.1 h
      exact ⟨by decide +kernel, fun hd => absurd hd (by decide)⟩
  · exact ⟨lowerChar_of_mem h, eq_of_mem_lowerChar h⟩

theorem lowerAt_ne_nil (before : List Char) (c : Char) (after : List Char) : lowerAt before c after ≠ [] := by
  unfold lowerAt
  split
  · exact List.cons_ne_nil _ _
  · exact lowerChar_ne_nil c

/-- What has itself as its form on its own has it in a text, too. -/
theorem lowerAt_of_lower (h : lowerChar c = [c]) (before after : List Char) : lowerAt before c after = [c] := by
  unfold lowerAt
  rw [if_neg, h]
  rintro rfl
  revert h
  decide +kernel

theorem lowerFrom_of_lower (h : ∀ c ∈ cs, lowerChar c = [c]) (before : List Char) : lowerFrom before cs = cs := by
  induction cs generalizing before with
  | nil => rfl
  | cons c cs ih =>
    obtain ⟨hc, hcs⟩ := List.forall_mem_cons.1 h
    rw [lowerFrom_cons, lowerAt_of_lower hc, ih hcs, List.singleton_append]

theorem mem_lowerFrom (h : d ∈ lowerFrom before cs) : lowerChar d = [d] := by
  induction cs generalizing before with
  | nil => cases h
  | cons c cs ih =>
    rw [lowerFrom_cons] at h
    rcases List.mem_append.1 h with h | h
    · exact (mem_lowerAt h).1
    · exact ih h

/-- A plain character in the form of a text stands in the text itself. -/
theorem mem_of_mem_lowerFrom (h : d ∈ lowerFrom before cs) (hd : isPlain d = true) : d ∈ cs := by
  induction cs generalizing before with
  | nil => cases h
  | cons c cs ih =>
    rw [lowerFrom_cons] at h
    rcases List.mem_append.1 h with h | h
    · rw [(mem_lowerAt h).2 hd]
      exact List.mem_cons_self
    · exact List.mem_cons_of_mem c (ih h)

/-- A part of a text in lower case is in lower case. -/
theorem lowered_of_subset {ds : List Char} (h : ds ⊆ lowered cs) : lowered ds = ds :=
  lowerFrom_of_lower (fun _ hd => mem_lowerFrom (h hd)) []

theorem lowered_lowered (cs : List Char) : lowered (lowered cs) = lowered cs :=
  lowered_of_subset (List.Subset.refl _)

/-! ## The ends of a text -/

/-- A plain character comes first in the form of a text when it comes first in the text. -/
theorem head?_lowerFrom (h : isPlain d = true) (before cs : List Char) :
    (lowerFrom before cs).head? = some d ↔ cs.head? = some d := by
  cases cs with
  | nil => exact Iff.rfl
  | cons c cs =>
    obtain ⟨e, es, hforms⟩ := List.exists_cons_of_ne_nil (lowerAt_ne_nil before c cs)
    rw [lowerFrom_cons, hforms]
    simp only [List.cons_append, List.head?_cons, Option.some.injEq]
    constructor
    · rintro rfl
      have he : e ∈ lowerAt before c cs := by
        rw [hforms]
        exact List.mem_cons_self
      exact ((mem_lowerAt he).2 h).symm
    · rintro rfl
      rw [lowerAt_of_lower (lowerChar_of_isPlain h)] at hforms
      exact (List.cons.inj hforms).1.symm

/-- The last character of a text has the last one of its form among its own. -/
theorem exists_getLast?_lowerFrom (h : cs.getLast? = some c) (before : List Char) :
    ∃ d, (lowerFrom before cs).getLast? = some d ∧ (isPlain d = true → d = c) := by
  induction cs generalizing before with
  | nil => cases h
  | cons b cs ih =>
    rw [lowerFrom_cons]
    cases cs with
    | nil =>
      obtain rfl : b = c := Option.some.inj h
      have hne := lowerAt_ne_nil before b []
      rw [lowerFrom, List.append_nil]
      exact ⟨_, List.getLast?_eq_some_getLast hne, (mem_lowerAt (List.getLast_mem hne)).2⟩
    | cons b' cs =>
      rw [List.getLast?_cons_cons] at h
      obtain ⟨d, hd, hplain⟩ := ih h (b :: before)
      exact ⟨d, by rw [List.getLast?_append, hd, Option.some_or], hplain⟩

theorem isPlain_of_isBlank (h : isBlank c = true) : isPlain c = true := Bool.or_eq_true_iff.2 (.inl h)

theorem IsTight.lowered (h : IsTight cs) : IsTight (lowered cs) := by
  constructor
  · obtain ⟨c, hc, hblank⟩ := h.first
    cases hd : (Text.lowered cs).head? with
    | none =>
      obtain ⟨b, rest, rfl, -⟩ := h.exists_cons
      have hnil := List.append_eq_nil_iff.1 (List.head?_eq_none_iff.1 hd)
      exact absurd hnil.1 (lowerAt_ne_nil [] b rest)
    | some d =>
      refine ⟨d, rfl, Bool.eq_false_iff.2 fun hd' => ?_⟩
      -- White space in front would have been there before.
      rw [(head?_lowerFrom (isPlain_of_isBlank hd') [] cs).1 hd, Option.some.injEq] at hc
      rw [hc, hblank] at hd'
      cases hd'
  · obtain ⟨c, hc, hblank⟩ := h.last
    obtain ⟨d, hd, hplain⟩ := exists_getLast?_lowerFrom hc []
    refine ⟨d, hd, Bool.eq_false_iff.2 fun hd' => ?_⟩
    rw [hplain (isPlain_of_isBlank hd'), hblank] at hd'
    cases hd'

/-- It does not matter whether plain characters are cut off the front of a text or of its form. -/
theorem dropWhile_lowerFrom {p : Char → Bool} (hp : ∀ c, p c = true → isPlain c = true) (before cs : List Char) :
    ∃ before', (lowerFrom before cs).dropWhile p = lowerFrom before' (cs.dropWhile p) := by
  induction cs generalizing before with
  | nil => exact ⟨before, rfl⟩
  | cons c cs ih =>
    by_cases hc : p c = true
    · obtain ⟨before', hbefore'⟩ := ih (c :: before)
      refine ⟨before', ?_⟩
      rw [lowerFrom_cons, lowerAt_of_lower (lowerChar_of_isPlain (hp c hc)), List.singleton_append,
        List.dropWhile_cons_of_pos hc, List.dropWhile_cons_of_pos hc, hbefore']
    · refine ⟨before, ?_⟩
      -- Nothing is cut off the form either: what it begins with would be the character itself.
      rw [List.dropWhile_cons_of_neg hc]
      cases hform : lowerFrom before (c :: cs) with
      | nil => rfl
      | cons d ds =>
        refine List.dropWhile_cons_of_neg fun hd => hc ?_
        have hhead := (head?_lowerFrom (hp d hd) before (c :: cs)).1 (by rw [hform]; rfl)
        rw [Option.some.inj hhead]
        exact hd

end RecordDesk.Text
