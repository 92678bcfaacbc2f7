import RecordDesk.Metadata.Scalar
import RecordDesk.Proofs.Number.Layout
import RecordDesk.Proofs.Number.Shortest

/-!
A finite real is read back from its text, and its text cannot be taken for an integer.
-/

namespace RecordDesk.Metadata

/-! ## Reading a layout -/

/-- Digits, a point and more digits, with what follows them. -/
theorem readMagnitude?_point {whole fractional : List Char}
    (hdigits : ∀ c ∈ whole ++ fractional, c.isDigit = true) (hne : whole ≠ []) (rest : List Char)
    (hrest : ∀ c, rest.head? = some c → c.isDigit = false) (negative : Bool) :
    readMagnitude? negative (whole ++ '.' :: (fractional ++ rest)) =
      (readExponent? rest).map fun e =>
        .ofDecimal negative (Numeral.value (whole ++ fractional)) (e - fractional.length) := by
  have hwhole : ∀ c ∈ whole, c.isDigit = true := fun c hc => hdigits c (List.mem_append_left _ hc)
  have hfractional : ∀ c ∈ fractional, c.isDigit = true :=
    fun c hc => hdigits c (List.mem_append_right _ hc)
  have hpoint : Char.isDigit '.' = false := rfl
  have htake : rest.takeWhile Char.isDigit = [] := by
    cases rest with
    | nil => rfl
    | cons c cs => exact List.takeWhile_cons_of_neg (by simp [hrest c rfl])
  have hdrop : rest.dropWhile Char.isDigit = rest := by
    cases rest with
    | nil => rfl
    | cons c cs => exact List.dropWhile_cons_of_neg (by simp [hrest c rfl])
  have hend : (whole ++ '.' :: (fractional ++ rest)).dropWhile Char.isDigit =
      '.' :: (fractional ++ rest) := by
    rw [List.dropWhile_append_of_pos hwhole]
    exact List.dropWhile_cons_of_neg (by simp [hpoint])
  have hfront : (whole ++ '.' :: (fractional ++ rest)).takeWhile Char.isDigit = whole := by
    rw [List.takeWhile_append_of_pos hwhole, List.takeWhile_cons_of_neg (by simp [hpoint]),
      List.append_nil]
  unfold readMagnitude?
  simp only [hend, hfront, List.takeWhile_append_of_pos hfractional,
    List.dropWhile_append_of_pos hfractional, htake, hdrop, List.append_nil]
  rw [if_neg (by simp [hne])]

/-- Digits without a point, with an exponent. -/
theorem readMagnitude?_whole {whole : List Char} (hdigits : ∀ c ∈ whole, c.isDigit = true)
    (hne : whole ≠ []) (rest : List Char) (negative : Bool) :
    readMagnitude? negative (whole ++ 'e' :: rest) =
      (readExponent? ('e' :: rest)).map fun e =>
        .ofDecimal negative (Numeral.value whole) e := by
  have hmark : Char.isDigit 'e' = false := rfl
  unfold readMagnitude?
  dsimp only
  rw [List.takeWhile_append_of_pos hdigits, List.dropWhile_append_of_pos hdigits,
    List.takeWhile_cons_of_neg (by simp [hmark]), List.dropWhile_cons_of_neg (by simp [hmark])]
  simp [hne]

theorem readExponent?_ofInt (n : Int) : readExponent? ('e' :: Numeral.ofInt n) = some n := by
  show (if 'e' = 'e' ∨ 'e' = 'E' then Numeral.signed? (Numeral.ofInt n) else none) = some n
  rw [if_pos (.inl rfl), Numeral.signed?_ofInt]

/-- A text with a digit in front has no sign. -/
theorem readReal?_of_isDigit {c : Char} (h : c.isDigit = true) (cs : List Char) :
    readReal? (c :: cs) = readMagnitude? false (c :: cs) := by
  unfold readReal?
  split
  · next heq =>
    cases heq
    cases h
  · next heq =>
    cases heq
    cases h
  · rfl

/-! ## Writing -/

/-- A real without its sign, as it is written: a digit in front, nothing that a real could not hold,
and a mark that no integer has. -/
structure IsMagnitude (cs : List Char) : Prop where
  first : ∃ c rest, cs = c :: rest ∧ c.isDigit = true
  chars : ∀ c ∈ cs, isNumberChar c = true
  mark : ∃ c ∈ cs, c = '.' ∨ c = 'e'

theorem isNumberChar_of_isDigit {c : Char} (h : c.isDigit = true) : isNumberChar c = true := by
  simp [isNumberChar, h]

theorem isNumberChar_of_mem_ofInt (n : Int) : ∀ c ∈ Numeral.ofInt n, isNumberChar c = true := by
  intro c hc
  rcases Numeral.chars_of_signed? (Numeral.signed?_ofInt n) c hc with h | rfl | rfl
  · exact isNumberChar_of_isDigit h
  · decide
  · decide

theorem scientific_eq {digits : List Char} (hne : digits ≠ []) (place : Int) : ∃ d ds, digits = d :: ds ∧
    realFormat.scientific digits place =
      d :: ((if ds = [] then [] else '.' :: ds) ++ 'e' :: Numeral.ofInt place) := by
  have hsign : (if place < 0 then [] else realFormat.exponentSign) = [] := by
    split <;> rfl
  unfold RealFormat.scientific
  rw [hsign]
  cases digits with
  | nil => exact absurd rfl hne
  | cons d ds =>
    refine ⟨d, ds, rfl, ?_⟩
    cases ds with
    | nil => rfl
    | cons d' ds => rfl

section

variable {digits : List Char} (hne : digits ≠ []) (hdigits : ∀ c ∈ digits, c.isDigit = true)

include hne hdigits

theorem isMagnitude_plain (place : Int) : IsMagnitude (RealFormat.plain digits place) := by
  obtain ⟨whole, fractional, k, heq, hwhole, hall, -, -⟩ :=
    RealFormat.exists_plain_eq hne hdigits place
  rw [heq]
  refine ⟨?_, ?_, '.', by simp, .inl rfl⟩
  · cases whole with
    | nil => exact absurd rfl hwhole
    | cons c rest => exact ⟨c, _, rfl, hall c (by simp)⟩
  · intro c hc
    rcases List.mem_append.1 hc with hc | hc
    · exact isNumberChar_of_isDigit (hall c (List.mem_append_left _ hc))
    · rcases List.mem_cons.1 hc with rfl | hc
      · decide
      · exact isNumberChar_of_isDigit (hall c (List.mem_append_right _ hc))

/-- The positional layout is read as the digits at their place. -/
theorem readMagnitude?_plain (place : Int) :
    ∃ k : Nat, ∀ negative, readMagnitude? negative (RealFormat.plain digits place) =
      some (.ofDecimal negative (Numeral.value digits * 10 ^ k) (place - digits.length + 1 - k)) := by
  obtain ⟨whole, fractional, k, heq, hwhole, hall, hvalue, hlen⟩ :=
    RealFormat.exists_plain_eq hne hdigits place
  refine ⟨k, fun negative => ?_⟩
  have h := readMagnitude?_point hall hwhole [] (fun c hc => by cases hc) negative
  rw [List.append_nil] at h
  rw [heq, h]
  show some (Binary64.ofDecimal negative (Numeral.value (whole ++ fractional)) (0 - fractional.length)) = _
  rw [hvalue, show (0 : Int) - fractional.length = place - digits.length + 1 - k by omega]

theorem isMagnitude_scientific (place : Int) :
    IsMagnitude (realFormat.scientific digits place) := by
  obtain ⟨d, ds, rfl, heq⟩ := scientific_eq hne place
  rw [heq]
  refine ⟨⟨d, _, rfl, hdigits d List.mem_cons_self⟩, ?_, 'e', by simp, .inr rfl⟩
  intro c hc
  rcases List.mem_cons.1 hc with rfl | hc
  · exact isNumberChar_of_isDigit (hdigits c List.mem_cons_self)
  · rcases List.mem_append.1 hc with hc | hc
    · split at hc
      · cases hc
      · rcases List.mem_cons.1 hc with rfl | hc
        · decide
        · exact isNumberChar_of_isDigit (hdigits c (List.mem_cons_of_mem d hc))
    · rcases List.mem_cons.1 hc with rfl | hc
      · decide
      · exact isNumberChar_of_mem_ofInt place c hc

/-- The layout with an exponent is read as the digits at their place, too. -/
theorem readMagnitude?_scientific (place : Int) (negative : Bool) :
    readMagnitude? negative (realFormat.scientific digits place) =
      some (.ofDecimal negative (Numeral.value digits) (place - digits.length + 1)) := by
  obtain ⟨d, ds, rfl, heq⟩ := scientific_eq hne place
  have hmark : ∀ c, ('e' :: Numeral.ofInt place).head? = some c → c.isDigit = false := by
    rintro c ⟨⟩
    rfl
  rw [heq]
  cases ds with
  | nil =>
    have h := readMagnitude?_whole hdigits hne (Numeral.ofInt place) negative
    rw [readExponent?_ofInt] at h
    rw [show place - ([d].length : Int) + 1 = place by simp only [List.length_singleton]; omega]
    exact h
  | cons d' ds =>
    have hall : ∀ c ∈ [d] ++ (d' :: ds), c.isDigit = true := hdigits
    have h := readMagnitude?_point hall (by simp) ('e' :: Numeral.ofInt place) hmark negative
    rw [readExponent?_ofInt] at h
    have hlen : place - ((d :: d' :: ds).length : Int) + 1 = place - ((d' :: ds).length : Int) := by
      simp only [List.length_cons]
      omega
    rw [hlen]
    exact h

end

/-! ## Round trip -/

/-- A finite real is written as a magnitude, with a sign exactly when it is negative, and the magnitude
is read as the real with that sign. -/
theorem exists_writeReal_eq {x : Binary64} (hfin : x.isFinite = true) :
    ∃ text, writeReal x = (if x.isNegative then '-' :: text else text) ∧ IsMagnitude text ∧
      readMagnitude? x.isNegative text = some x := by
  have hne := Numeral.ofNat_ne_nil (x.shortest .up).digits
  have hdigits := Numeral.isDigit_of_mem_ofNat (x.shortest .up).digits
  have hvalue := Numeral.value_ofNat (x.shortest .up).digits
  have hwrite : writeReal x = realFormat.write x := if_pos hfin
  rw [hwrite]
  unfold RealFormat.write
  dsimp only
  rw [show realFormat.tie = .up from rfl]
  generalize Numeral.ofNat (x.shortest .up).digits = digits at hne hdigits hvalue ⊢
  have hplace : (x.shortest .up).exponent + digits.length - 1 - digits.length + 1 =
      (x.shortest .up).exponent := by omega
  refine ⟨_, rfl, ?_⟩
  split
  · refine ⟨isMagnitude_plain hne hdigits _, ?_⟩
    obtain ⟨k, hk⟩ := readMagnitude?_plain hne hdigits ((x.shortest .up).exponent + digits.length - 1)
    rw [hk, hvalue, hplace, Binary64.ofDecimal_shortest hfin]
  · refine ⟨isMagnitude_scientific hne hdigits _, ?_⟩
    have h := Binary64.ofDecimal_shortest hfin .up 0
    rw [Nat.pow_zero, Nat.mul_one, Int.natCast_zero, Int.sub_zero] at h
    rw [readMagnitude?_scientific hne hdigits, hvalue, hplace, h]

/-- Reading a real undoes writing it. -/
theorem readReal?_writeReal {x : Binary64} (hfin : x.isFinite = true) :
    readReal? (writeReal x) = some x := by
  obtain ⟨text, heq, htext, hread⟩ := exists_writeReal_eq hfin
  rw [heq]
  cases hneg : x.isNegative with
  | true =>
    rw [hneg] at hread
    exact hread
  | false =>
    rw [hneg] at hread
    obtain ⟨c, rest, rfl, hc⟩ := htext.first
    exact (readReal?_of_isDigit hc rest).trans hread

/-- The text of a real is no integer, but looks like a number. -/
theorem writeReal_looks {x : Binary64} (hfin : x.isFinite = true) :
    readInt? (writeReal x) = none ∧ looksNumeric (writeReal x) = true := by
  obtain ⟨text, heq, ⟨⟨d, rest, rfl, hd⟩, hchars, m, hm, hmark⟩, -⟩ := exists_writeReal_eq hfin
  have hsub : ∀ c ∈ d :: rest, c ∈ writeReal x := by
    intro c hc
    rw [heq]
    split
    · exact List.mem_cons_of_mem _ hc
    · exact hc
  have hall : ∀ c ∈ writeReal x, isNumberChar c = true := by
    intro c hc
    rw [heq] at hc
    split at hc
    · rcases List.mem_cons.1 hc with rfl | hc
      · decide
      · exact hchars c hc
    · exact hchars c hc
  constructor
  · unfold readInt?
    split
    · rfl
    · next n hn =>
      rcases Numeral.chars_of_signed? hn m (hsub m hm) with h | h | h <;>
        rcases hmark with rfl | rfl <;> cases h
  · unfold looksNumeric
    rw [Bool.and_eq_true, List.any_eq_true, List.all_eq_true]
    exact ⟨⟨d, hsub d List.mem_cons_self, hd⟩, hall⟩

end RecordDesk.Metadata
