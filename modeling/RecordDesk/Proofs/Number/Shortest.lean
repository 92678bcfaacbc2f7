import RecordDesk.Proofs.Number.Nearest
import RecordDesk.Proofs.Number.Numerals

/-!
Seventeen digits are enough to name a double, so the search for the shortest decimal always ends with
one that is read as the double again.
-/

namespace RecordDesk.Binary64

/-! ## One grid -/

/-- How often `10 ^ place` goes into the double: its lower neighbour on the grid. -/
def Rounding.below (r : Rounding) (place : Int) : Nat :=
  r.value * 10 ^ (-place).toNat / (2 ^ 1076 * 10 ^ place.toNat)

/-- A grid gives the lower or the upper neighbour, and nothing only when neither names the double. -/
theorem Rounding.onGrid_cases (r : Rounding) (tie : TieRule) (place : Int) :
    (r.onGrid tie place = some ⟨r.below place, place⟩ ∧ r.below place ≠ 0 ∧
        r.holds (r.below place) place = true) ∨
      (r.onGrid tie place = some ⟨r.below place + 1, place⟩ ∧
        r.holds (r.below place + 1) place = true) ∨
      (r.onGrid tie place = none ∧ (r.holds (r.below place) place = true → r.below place = 0) ∧
        r.holds (r.below place + 1) place = false) := by
  unfold onGrid below
  dsimp only
  generalize 2 ^ 1076 * 10 ^ place.toNat = step
  generalize r.value * 10 ^ (-place).toNat = n
  generalize n / step = c
  have hif (above : Bool) : some (Decimal.mk (if above = true then c + 1 else c) place) = some ⟨c, place⟩ ∨
      some (Decimal.mk (if above = true then c + 1 else c) place) = some ⟨c + 1, place⟩ := by
    cases above with
    | false => exact .inl rfl
    | true => exact .inr rfl
  split
  · next hc hc' =>
    rw [Bool.and_eq_true, bne_iff_ne] at hc
    exact (hif _).elim (fun heq => .inl ⟨heq, hc.2, hc.1⟩) (fun heq => .inr (.inl ⟨heq, hc'⟩))
  · next hc hc' =>
    rw [Bool.and_eq_true, bne_iff_ne] at hc
    exact .inl ⟨rfl, hc.2, hc.1⟩
  · next hc hc' => exact .inr (.inl ⟨rfl, hc'⟩)
  · next hc hc' =>
    refine .inr (.inr ⟨rfl, fun h => ?_, hc'⟩)
    rw [h, Bool.true_and] at hc
    simpa using hc

/-- What a grid gives lies on it and in the interval. -/
theorem Rounding.holds_of_onGrid {r : Rounding} {tie : TieRule} {place : Int} {d : Decimal}
    (h : r.onGrid tie place = some d) :
    d.digits ≠ 0 ∧ r.holds d.digits d.exponent = true := by
  rcases r.onGrid_cases tie place with ⟨heq, hne, hc⟩ | ⟨heq, hc⟩ | ⟨heq, -, -⟩
  · rw [heq] at h
    cases h
    exact ⟨hne, hc⟩
  · rw [heq] at h
    cases h
    exact ⟨Nat.succ_ne_zero _, hc⟩
  · rw [heq] at h
    cases h

theorem step_pos (j k : Nat) : 0 < 2 ^ j * 10 ^ k :=
  Nat.mul_pos (Nat.two_pow_pos j) (Nat.pow_pos (by decide))

/-- A step that goes `10 ^ 16` times into a double is shorter than its interval. -/
theorem step_lt_width {x : Binary64} {k unit step : Nat} (hunit : 2 ^ x.power * k = unit)
    (hpos : 0 < unit) (hm : 0 < x.significand) (hfine : 10 ^ 16 * step ≤ x.rounding.value * k) :
    x.rounding.low * k < x.rounding.value * k ∧ x.rounding.value * k < x.rounding.high * k ∧
      x.rounding.low * k + step < x.rounding.high * k := by
  obtain ⟨hvalue, hhigh, hlow⟩ := x.rounding_ends hunit
  rw [hvalue] at hfine ⊢
  rw [hhigh]
  have hle : unit ≤ x.significand * unit := Nat.le_mul_of_pos_left unit hm
  rcases hlow with ⟨hlow, -⟩ | ⟨hlow, hsig, -⟩
  · have hlt := Nat.mul_le_mul_right unit (Nat.le_of_lt x.significand_lt)
    rw [hlow]
    omega
  · rw [hsig] at hfine hlow ⊢
    rw [hlow]
    omega

/-- A multiple of the step between the ends of the interval names the double. -/
theorem Rounding.holds_of_lt {r : Rounding} {c : Nat} {place : Int} {step : Nat}
    (hstep : step = 2 ^ 1076 * 10 ^ place.toNat) (hlow : r.low * 10 ^ (-place).toNat < c * step)
    (hhigh : c * step < r.high * 10 ^ (-place).toNat) : r.holds c place = true := by
  have hat : c * 10 ^ place.toNat * 2 ^ 1076 = c * step := by
    rw [hstep, Nat.mul_assoc, Nat.mul_comm (10 ^ _)]
  apply holds_of_contains
  apply contains_of_lt
  · rw [hat]
    exact hlow
  · rw [hat]
    exact hhigh

/-- A grid of which the double is at least `10 ^ 16` steps has a neighbour of it in the interval. -/
theorem Rounding.onGrid_ne_none {x : Binary64} (hzero : x.isZero = false) (tie : TieRule) {place : Int}
    {step : Nat} (hstep : step = 2 ^ 1076 * 10 ^ place.toNat)
    (hfine : 10 ^ 16 * step ≤ x.rounding.value * 10 ^ (-place).toNat) :
    x.rounding.onGrid tie place ≠ none := by
  have hunit : 0 < 2 ^ x.power * 10 ^ (-place).toNat :=
    Nat.mul_pos (Nat.two_pow_pos _) (Nat.pow_pos (by decide))
  have hpos : 0 < step := by
    rw [hstep]
    exact step_pos 1076 place.toNat
  have hbelow : x.rounding.below place = x.rounding.value * 10 ^ (-place).toNat / step := by
    rw [hstep]
    rfl
  obtain ⟨hlow, hhigh, hwidth⟩ := step_lt_width rfl hunit (significand_pos hzero) hfine
  have hrest := Nat.mod_lt (x.rounding.value * 10 ^ (-place).toNat) hpos
  have hsplit := Nat.div_add_mod (x.rounding.value * 10 ^ (-place).toNat) step
  rw [← hbelow, Nat.mul_comm] at hsplit
  have hne : x.rounding.below place ≠ 0 := by
    rw [hbelow]
    exact Nat.pos_iff_ne_zero.1 (Nat.div_pos (by omega) hpos)
  intro hnone
  rcases x.rounding.onGrid_cases tie place with ⟨heq, -, -⟩ | ⟨heq, -⟩ | ⟨-, hc, hc'⟩
  · rw [heq] at hnone
    cases hnone
  · rw [heq] at hnone
    cases hnone
  · -- The lower neighbour is too low, so the upper one is in the interval after all.
    have hout : x.rounding.below place * step ≤ x.rounding.low * 10 ^ (-place).toNat := by
      apply Nat.le_of_not_lt
      intro hin
      exact hne (hc (holds_of_lt hstep hin (by omega)))
    have hsucc : (x.rounding.below place + 1) * step = x.rounding.below place * step + step :=
      Nat.succ_mul _ _
    have hin : x.rounding.holds (x.rounding.below place + 1) place = true :=
      holds_of_lt hstep (by omega) (by omega)
    rw [hc'] at hin
    cases hin

/-! ## The place of the leading digit -/

/-- A bound on powers of ten with other exponents of the same difference. -/
theorem mul_pow_le_mul_pow {a b i j k l : Nat} (h : 10 ^ i * a ≤ b * 10 ^ j) (hexp : k + j = i + l) :
    a * 10 ^ k ≤ b * 10 ^ l := by
  apply Nat.le_of_mul_le_mul_right _ (Nat.pow_pos (n := j) (show 0 < 10 by decide))
  have hmul := Nat.mul_le_mul_right (10 ^ l) h
  calc a * 10 ^ k * 10 ^ j = 10 ^ i * a * 10 ^ l := by
        rw [Nat.mul_assoc, ← Nat.pow_add, hexp, Nat.pow_add, Nat.mul_left_comm, Nat.mul_assoc]
    _ ≤ b * 10 ^ j * 10 ^ l := hmul
    _ = b * 10 ^ l * 10 ^ j := Nat.mul_right_comm _ _ _

/-- The leading digit of a double that is not zero is no zero. -/
theorem le_scaled_of_leadingPlace {x : Binary64} (hzero : x.isZero = false) (i j : Nat)
    (h : (i : Int) - j = x.leadingPlace) : 2 ^ 1074 * 10 ^ i ≤ x.scaled * 10 ^ j := by
  have hscaled : 0 < x.scaled := Nat.mul_pos (significand_pos hzero) (Nat.two_pow_pos _)
  have hten : 2 ^ 1074 ≤ 10 ^ 350 := by decide +kernel
  have hlen := Numeral.length_pos (x.scaled * 10 ^ 350 / 2 ^ 1074)
  have hpos : 0 < x.scaled * 10 ^ 350 / 2 ^ 1074 :=
    Nat.div_pos (Nat.le_trans hten (Nat.le_mul_of_pos_left _ hscaled)) (Nat.two_pow_pos 1074)
  have hle := Nat.mul_le_of_le_div (2 ^ 1074) _ (x.scaled * 10 ^ 350) (Numeral.pow_length_le hpos)
  apply mul_pow_le_mul_pow (a := 2 ^ 1074) (k := i) hle
  unfold leadingPlace at h
  omega

theorem ten_pow_mul_step {i j k l : Nat} (h : j = k + 2) :
    10 ^ i * (2 ^ j * 10 ^ l) = 4 * (2 ^ k * 10 ^ (i + l)) := by
  rw [h, Nat.pow_add, Nat.pow_add]
  simp only [Nat.mul_assoc, Nat.mul_left_comm]

/-- Sixteen places below the leading one the grid is fine enough for every double. -/
theorem Rounding.onGrid_seventeenth {x : Binary64} (hzero : x.isZero = false) (tie : TieRule) :
    x.rounding.onGrid tie (x.leadingPlace - 16) ≠ none := by
  apply onGrid_ne_none hzero tie rfl
  generalize hplace : x.leadingPlace - 16 = place
  have h := le_scaled_of_leadingPlace hzero (16 + place.toNat) (-place).toNat (by omega)
  have hvalue : x.rounding.value = 4 * x.scaled := Nat.mul_assoc _ _ _
  rw [ten_pow_mul_step (i := 16) (j := 1076) (k := 1074) (l := place.toNat) rfl, hvalue,
    Nat.mul_assoc 4 x.scaled]
  have hmul := Nat.mul_le_mul_left 4 h
  exact hmul

/-- Giving up a zero at the end does not change the number. -/
theorem Rounding.holds_compact {r : Rounding} {d : Decimal} (hne : d.digits ≠ 0)
    (h : r.holds d.digits d.exponent = true) :
    d.compact.digits ≠ 0 ∧ r.holds d.compact.digits d.compact.exponent = true := by
  unfold Decimal.compact
  split
  · next hten =>
    refine ⟨Nat.one_ne_zero, (holds_shift 1).1 ?_⟩
    rw [hten] at h
    dsimp only
    rw [show d.exponent + 1 - ((1 : Nat) : Int) = d.exponent by omega]
    exact h
  · exact ⟨hne, h⟩

/-- The shortest decimal of a double that is not zero lies in its interval. -/
theorem holds_shortest {x : Binary64} (hzero : x.isZero = false) (tie : TieRule) :
    (x.shortest tie).digits ≠ 0 ∧
      x.rounding.holds (x.shortest tie).digits (x.shortest tie).exponent = true := by
  unfold shortest
  rw [hzero, if_neg Bool.false_ne_true]
  dsimp only
  split
  · next d hd =>
    obtain ⟨k, -, hk⟩ := List.exists_of_findSome?_eq_some hd
    obtain ⟨hne, hholds⟩ := Rounding.holds_of_onGrid hk
    exact Rounding.holds_compact hne hholds
  · next hnone =>
    have h := List.findSome?_eq_none_iff.1 hnone 16 (List.mem_range.2 (by decide))
    exact absurd h (Rounding.onGrid_seventeenth hzero tie)

/-- A zero has the digit 0. -/
theorem shortest_of_isZero {x : Binary64} (hzero : x.isZero = true) (tie : TieRule) :
    x.shortest tie = ⟨0, 0⟩ := if_pos hzero

/-- Reading any decimal with the value of the shortest one gives the double back, whatever zeros were
written after its digits. -/
theorem ofDecimal_shortest {x : Binary64} (hfin : x.isFinite = true) (tie : TieRule) (k : Nat) :
    ofDecimal x.isNegative ((x.shortest tie).digits * 10 ^ k) ((x.shortest tie).exponent - k) = x := by
  cases hzero : x.isZero with
  | true =>
    rw [shortest_of_isZero hzero, Nat.zero_mul]
    exact ofDecimal_zero hzero _
  | false =>
    obtain ⟨hne, hholds⟩ := holds_shortest hzero tie
    apply ofDecimal_eq hfin hzero _ ((Rounding.holds_shift k).2 hholds)
    exact Nat.mul_ne_zero hne (Nat.pos_iff_ne_zero.1 (Nat.pow_pos (by decide)))

end RecordDesk.Binary64
