import RecordDesk.Number.Shortest

/-!
Which numbers round to a double: all those of its interval. So a decimal that `Rounding.holds` admits
is read as the very double whose interval it is.
-/

namespace RecordDesk.Binary64

/-! ## The parts of a double -/

theorem fraction_lt (x : Binary64) : x.fraction < 2 ^ 52 := Nat.mod_lt _ (by decide)

theorem significand_lt (x : Binary64) : x.significand < 2 ^ 53 := by
  have h := x.fraction_lt
  unfold significand
  split <;> omega

/-- Only in the lowest binade may the leading bit be missing. -/
theorem power_eq_zero_or_le_significand (x : Binary64) :
    x.power = 0 ∨ 2 ^ 52 ≤ x.significand := by
  unfold power significand
  split <;> omega

theorem power_le {x : Binary64} (h : x.isFinite = true) : x.power ≤ 2045 := by
  have hlt : x.exponentField < 2048 := Nat.mod_lt _ (by decide)
  have hne : x.exponentField ≠ 2047 := by simpa [isFinite] using h
  unfold power
  omega

/-- Significand and power add up to the word without its sign. -/
theorem word_mod (x : Binary64) : x.word % 2 ^ 63 = x.power * 2 ^ 52 + x.significand := by
  unfold power significand exponentField fraction
  split <;> omega

theorem ofWord_word_mod (x : Binary64) : ofWord x.isNegative (x.word % 2 ^ 63) = x := by
  have hlt : x.word < 2 ^ 64 := x.bits.toNat_lt
  have hword : (if x.isNegative = true then 2 ^ 63 + x.word % 2 ^ 63 else x.word % 2 ^ 63) = x.word := by
    cases hneg : x.isNegative with
    | false =>
      have hle : ¬ 2 ^ 63 ≤ x.word := by simpa [isNegative] using hneg
      simp only [Bool.false_eq_true, if_false]
      omega
    | true =>
      have hle : 2 ^ 63 ≤ x.word := by simpa [isNegative] using hneg
      simp only [if_true]
      omega
  unfold ofWord
  rw [hword]
  show (⟨UInt64.ofNat x.bits.toNat⟩ : Binary64) = x
  rw [UInt64.ofNat_toNat]

/-! ## The nearest natural number -/

/-- The number `m` is nearest to all quotients within a half of it, and an even one also to those just
a half away. -/
theorem nearestNat_eq {n d m : Nat} (hlow : 2 * (m * d) ≤ 2 * n + d) (hhigh : 2 * n ≤ 2 * (m * d) + d)
    (hodd : m % 2 = 1 → 2 * (m * d) < 2 * n + d ∧ 2 * n < 2 * (m * d) + d) (hd : 0 < d) :
    nearestNat n d = m := by
  have hsplit : n / d * d + n % d = n := by
    rw [Nat.mul_comm]
    exact Nat.div_add_mod n d
  have hrest := Nat.mod_lt n hd
  unfold nearestNat
  dsimp only
  generalize n / d = q at hsplit ⊢
  generalize n % d = r at hsplit hrest ⊢
  -- The quotient is the number itself or one below it: any other is more than a half away.
  rcases Nat.lt_trichotomy q m with hq | rfl | hq
  · have hqd := Nat.mul_le_mul_right d hq
    rw [Nat.succ_mul] at hqd
    have hm : m = q + 1 := by
      rcases Nat.lt_or_ge (q + 1) m with hq' | hq'
      · have hqd' := Nat.mul_le_mul_right d hq'
        rw [Nat.succ_mul, Nat.succ_mul] at hqd'
        omega
      · omega
    subst hm
    rw [Nat.succ_mul] at hlow hhigh hodd
    split
    · omega
    · split <;> omega
  · split
    · rfl
    · split <;> omega
  · have hqd := Nat.mul_le_mul_right d hq
    rw [Nat.succ_mul] at hqd
    omega

/-! ## Intervals -/

/-- The quotient `n / d` lies in the interval. -/
structure Rounding.Contains (r : Rounding) (n d : Nat) : Prop where
  low_le : r.low * d ≤ n * 2 ^ 1076
  le_high : n * 2 ^ 1076 ≤ r.high * d
  inside : r.closed = false → r.low * d < n * 2 ^ 1076 ∧ n * 2 ^ 1076 < r.high * d

theorem Rounding.contains_of_holds {r : Rounding} {c : Nat} {place : Int}
    (h : r.holds c place = true) : r.Contains (c * 10 ^ place.toNat) (10 ^ (-place).toNat) := by
  unfold holds at h
  dsimp only at h
  split at h
  · next hclosed =>
    rw [Bool.and_eq_true, decide_eq_true_eq, decide_eq_true_eq] at h
    exact ⟨h.1, h.2, fun hopen => by rw [hclosed] at hopen; cases hopen⟩
  · rw [Bool.and_eq_true, decide_eq_true_eq, decide_eq_true_eq] at h
    exact ⟨Nat.le_of_lt h.1, Nat.le_of_lt h.2, fun _ => h⟩

theorem Rounding.holds_of_contains {r : Rounding} {c : Nat} {place : Int}
    (h : r.Contains (c * 10 ^ place.toNat) (10 ^ (-place).toNat)) : r.holds c place = true := by
  unfold holds
  dsimp only
  split
  · rw [Bool.and_eq_true, decide_eq_true_eq, decide_eq_true_eq]
    exact ⟨h.low_le, h.le_high⟩
  · next hclosed =>
    rw [Bool.and_eq_true, decide_eq_true_eq, decide_eq_true_eq]
    exact h.inside (by simpa using hclosed)

/-- Only the value of a quotient counts. -/
theorem Rounding.Contains.congr {r : Rounding} {n d n' d' : Nat} (h : r.Contains n d) (hd : 0 < d)
    (hd' : 0 < d') (heq : n * d' = n' * d) : r.Contains n' d' := by
  have hlow : r.low * d' * d = r.low * d * d' := Nat.mul_right_comm _ _ _
  have hhigh : r.high * d' * d = r.high * d * d' := Nat.mul_right_comm _ _ _
  have hmid : n' * 2 ^ 1076 * d = n * 2 ^ 1076 * d' := by
    rw [Nat.mul_right_comm, ← heq, Nat.mul_right_comm]
  refine ⟨?_, ?_, fun hopen => ⟨?_, ?_⟩⟩
  · apply Nat.le_of_mul_le_mul_right _ hd
    rw [hlow, hmid]
    exact Nat.mul_le_mul_right d' h.low_le
  · apply Nat.le_of_mul_le_mul_right _ hd
    rw [hhigh, hmid]
    exact Nat.mul_le_mul_right d' h.le_high
  · apply Nat.lt_of_mul_lt_mul_right (a := d)
    rw [hlow, hmid]
    exact Nat.mul_lt_mul_of_pos_right (h.inside hopen).1 hd'
  · apply Nat.lt_of_mul_lt_mul_right (a := d)
    rw [hhigh, hmid]
    exact Nat.mul_lt_mul_of_pos_right (h.inside hopen).2 hd'

/-- Zeros at the end of the digits may be traded for the place. -/
theorem Rounding.holds_shift {r : Rounding} {c : Nat} {place : Int} (k : Nat) :
    r.holds (c * 10 ^ k) (place - k) = true ↔ r.holds c place = true := by
  have hpos (n : Nat) : 0 < 10 ^ n := Nat.pow_pos (by decide)
  have hexp : place.toNat + (-(place - k)).toNat = k + (place - k).toNat + (-place).toNat := by omega
  have heq : c * 10 ^ place.toNat * 10 ^ (-(place - k)).toNat =
      c * 10 ^ k * 10 ^ (place - k).toNat * 10 ^ (-place).toNat := by
    rw [Nat.mul_assoc, ← Nat.pow_add, hexp, Nat.pow_add, Nat.pow_add]
    simp only [Nat.mul_assoc]
  constructor
  · intro h
    exact holds_of_contains ((contains_of_holds h).congr (hpos _) (hpos _) heq.symm)
  · intro h
    exact holds_of_contains ((contains_of_holds h).congr (hpos _) (hpos _) heq)

/-- Between the ends of the interval it does not matter whether they belong to it. -/
theorem Rounding.contains_of_lt {r : Rounding} {n d : Nat} (hlow : r.low * d < n * 2 ^ 1076)
    (hhigh : n * 2 ^ 1076 < r.high * d) : r.Contains n d :=
  ⟨Nat.le_of_lt hlow, Nat.le_of_lt hhigh, fun _ => ⟨hlow, hhigh⟩⟩

theorem mul_two_pow_of_eq_add_two (n : Nat) {j k : Nat} (h : j = k + 2) :
    n * 2 ^ j = 4 * (n * 2 ^ k) := by
  rw [h, Nat.pow_add, Nat.mul_comm (2 ^ k), Nat.mul_left_comm]

/-- The value of a double and the ends of its interval, in steps of the significand: half a step away,
or a quarter below a power of two. -/
theorem rounding_ends (x : Binary64) {k unit : Nat} (hunit : 2 ^ x.power * k = unit) :
    x.rounding.value * k = 4 * (x.significand * unit) ∧
      x.rounding.high * k = 4 * (x.significand * unit) + 2 * unit ∧
      (x.rounding.low * k = 4 * (x.significand * unit) - 2 * unit ∧
          ¬ (x.significand = 2 ^ 52 ∧ 0 < x.power) ∨
        x.rounding.low * k = 4 * (x.significand * unit) - unit ∧
          x.significand = 2 ^ 52 ∧ 0 < x.power) := by
  unfold rounding
  dsimp only
  simp only [Nat.mul_assoc, hunit, Nat.sub_mul, Nat.add_mul, true_and]
  split
  · next hgap => exact .inr ⟨by rw [Nat.one_mul], hgap⟩
  · next hgap => exact .inl ⟨rfl, hgap⟩

/-- What it means for a quotient to lie in the interval of a double. -/
theorem Rounding.Contains.bounds {x : Binary64} {n d : Nat} (h : x.rounding.Contains n d) {unit : Nat}
    (hunit : 2 ^ x.power * d = unit) :
    2 * (x.significand * unit) ≤ 2 * (n * 2 ^ 1074) + unit ∧
      2 * (n * 2 ^ 1074) ≤ 2 * (x.significand * unit) + unit ∧
      (x.significand % 2 = 1 → 2 * (x.significand * unit) < 2 * (n * 2 ^ 1074) + unit ∧
        2 * (n * 2 ^ 1074) < 2 * (x.significand * unit) + unit) ∧
      (x.significand = 2 ^ 52 → 0 < x.power →
        4 * (x.significand * unit) ≤ 4 * (n * 2 ^ 1074) + unit) := by
  obtain ⟨hlow, hhigh, hin⟩ := h
  have hscale : n * 2 ^ 1076 = 4 * (n * 2 ^ 1074) :=
    mul_two_pow_of_eq_add_two n (j := 1076) (k := 1074) rfl
  obtain ⟨-, htop, hbottom⟩ := x.rounding_ends hunit
  rw [hscale] at hlow hhigh hin
  rw [htop] at hhigh hin
  generalize n * 2 ^ 1074 = N at hlow hhigh hin ⊢
  have hopen : x.significand % 2 = 1 → x.rounding.closed = false := by
    intro hm
    show (x.significand % 2 == 0) = false
    rw [hm]
    rfl
  rcases hbottom with ⟨hbottom, hgap⟩ | ⟨hbottom, hgap⟩
  · rw [hbottom] at hlow hin
    refine ⟨by omega, by omega, fun hm => ?_, fun hm hp => absurd ⟨hm, hp⟩ hgap⟩
    have hstrict := hin (hopen hm)
    omega
  · rw [hbottom] at hlow hin
    refine ⟨by omega, by omega, fun hm => ?_, fun _ _ => by omega⟩
    have hstrict := hin (hopen hm)
    omega

/-! ## Rounding -/

/-- The power that `nearestWord` gives to a quotient whose whole part is `q`. -/
theorem binade_eq {q w : Nat} (hlt : q < 2 ^ 53 * 2 ^ w) (hle : w = 0 ∨ 2 ^ 52 * 2 ^ w ≤ q) :
    (if q < 2 ^ 53 then 0 else Nat.log2 q - 52) = w := by
  rcases hle with rfl | hle
  · rw [if_pos (by omega)]
  · rw [← Nat.pow_add] at hlt hle
    split
    · next h =>
      have hw : 52 + w < 53 := (Nat.pow_lt_pow_iff_right (by decide)).1 (Nat.lt_of_le_of_lt hle h)
      omega
    · next h =>
      have hlog : q.log2 = 52 + w := by
        apply (Nat.log2_eq_iff (by omega)).2
        exact ⟨hle, by rw [show 52 + w + 1 = 53 + w by omega]; exact hlt⟩
      omega

/-- A quotient between `2 ^ 52` and `2 ^ 53` steps of size `2 ^ w` is rounded to such steps. -/
theorem nearestWord_of_binade {n d w N : Nat} (hN : n * 2 ^ 1074 = N) (hd : 0 < d)
    (hlt : N < 2 ^ 53 * (d * 2 ^ w)) (hle : w = 0 ∨ 2 ^ 52 * (d * 2 ^ w) ≤ N) :
    nearestWord n d = min (w * 2 ^ 52 + nearestNat N (d * 2 ^ w)) infinityWord := by
  have hlt' : N / d < 2 ^ 53 * 2 ^ w := by
    rw [Nat.div_lt_iff_lt_mul hd, Nat.mul_assoc, Nat.mul_comm _ d]
    exact hlt
  have hle' : w = 0 ∨ 2 ^ 52 * 2 ^ w ≤ N / d := by
    rw [Nat.le_div_iff_mul_le hd, Nat.mul_assoc, Nat.mul_comm _ d]
    exact hle
  unfold nearestWord
  dsimp only
  rw [hN, binade_eq hlt' hle']

/-- Every quotient in the interval of a finite double rounds to it. -/
theorem nearestWord_eq {x : Binary64} (hfin : x.isFinite = true) {n d : Nat} (hd : 0 < d)
    (h : x.rounding.Contains n d) : nearestWord n d = x.word % 2 ^ 63 := by
  have hm := x.significand_lt
  have hw := power_le hfin
  obtain ⟨hlow, hhigh, hodd, hquarter⟩ := h.bounds (Nat.mul_comm _ d)
  have hfinite : x.power * 2 ^ 52 + x.significand ≤ infinityWord := by
    unfold infinityWord
    omega
  have hunit : 0 < d * 2 ^ x.power := Nat.mul_pos hd (Nat.two_pow_pos _)
  rw [word_mod]
  generalize hN : n * 2 ^ 1074 = N at hlow hhigh hodd hquarter
  by_cases hbinade : x.power = 0 ∨ 2 ^ 52 * (d * 2 ^ x.power) ≤ N
  · have hlt : N < 2 ^ 53 * (d * 2 ^ x.power) := by
      have hmul := Nat.mul_le_mul_right (d * 2 ^ x.power) (Nat.le_sub_one_of_lt hm)
      omega
    rw [nearestWord_of_binade hN hd hlt hbinade, nearestNat_eq hlow hhigh hodd hunit]
    exact Nat.min_eq_left hfinite
  · -- The quotient lies just below a power of two, in the binade below that of the double.
    obtain ⟨w, hw'⟩ : ∃ w, x.power = w + 1 := ⟨x.power - 1, by omega⟩
    have hhalf : d * 2 ^ x.power = 2 * (d * 2 ^ w) := by
      rw [hw', Nat.pow_succ, Nat.mul_comm (2 ^ w), Nat.mul_left_comm]
    have hpos : 0 < d * 2 ^ w := Nat.mul_pos hd (Nat.two_pow_pos _)
    rw [hhalf] at hlow hquarter hbinade
    have hsig : x.significand = 2 ^ 52 := by
      have hge := x.power_eq_zero_or_le_significand
      rcases Nat.lt_or_ge (2 ^ 52) x.significand with hlt | hle
      · have hmul := Nat.mul_le_mul_right (2 * (d * 2 ^ w)) hlt
        omega
      · omega
    have hq := hquarter hsig (by omega)
    rw [hsig] at hq
    have hlt : N < 2 ^ 53 * (d * 2 ^ w) := by omega
    have hle : 2 ^ 52 * (d * 2 ^ w) ≤ N := by omega
    rw [nearestWord_of_binade hN hd hlt (.inr hle),
      nearestNat_eq (m := 2 ^ 53) (by omega) (by omega) (fun hone => absurd hone (by decide)) hpos]
    have hword : w * 2 ^ 52 + 2 ^ 53 = x.power * 2 ^ 52 + x.significand := by omega
    rw [hword]
    exact Nat.min_eq_left hfinite

/-! ## Decimals -/

theorem ten_pow_ge (k : Nat) : 2 ^ (3 * k) ≤ 10 ^ k := by
  rw [Nat.pow_mul]
  exact Nat.pow_le_pow_left (by decide) k

theorem significand_pos {x : Binary64} (h : x.isZero = false) : 0 < x.significand := by
  have hword := x.word_mod
  have hpow := x.power_eq_zero_or_le_significand
  have hne : x.word % 2 ^ 63 ≠ 0 := by simpa [isZero] using h
  omega

/-- No power of ten far above the doubles lies in an interval. -/
theorem place_le_of_holds {x : Binary64} (hfin : x.isFinite = true) {c : Nat} (hc : c ≠ 0)
    {place : Int} (h : x.rounding.holds c place = true) : place ≤ 400 := by
  apply Classical.byContradiction
  intro hlt
  have hhigh := (Rounding.contains_of_holds h).le_high
  have hdown : (-place).toNat = 0 := by omega
  rw [hdown, Nat.pow_zero, Nat.mul_one] at hhigh
  have hup : 2 ^ (3 * place.toNat) ≤ c * 10 ^ place.toNat :=
    Nat.le_trans (ten_pow_ge _) (Nat.le_mul_of_pos_left _ (Nat.pos_of_ne_zero hc))
  have htop : x.rounding.high ≤ 2 ^ 55 * 2 ^ x.power := by
    have hm := x.significand_lt
    exact Nat.mul_le_mul_right (2 ^ x.power) (by omega)
  have hpow := power_le hfin
  have hlt' : 2 ^ (55 + x.power) < 2 ^ (3 * place.toNat + 1076) :=
    Nat.pow_lt_pow_right (by decide) (by omega)
  have hmul := Nat.mul_le_mul_right (2 ^ 1076) hup
  rw [Nat.pow_add, Nat.pow_add 2 (3 * place.toNat) 1076] at hlt'
  omega

/-- No power of ten far below the doubles lies in the interval of one that is not zero. -/
theorem le_place_of_holds {x : Binary64} (hzero : x.isZero = false) {c : Nat} {place : Int}
    (h : x.rounding.holds c place = true) : -(400 + Nat.log2 c : Int) ≤ place := by
  apply Classical.byContradiction
  intro hlt
  have hlow := (Rounding.contains_of_holds h).low_le
  have hup : place.toNat = 0 := by omega
  rw [hup, Nat.pow_zero, Nat.mul_one] at hlow
  have hone : 1 ≤ x.rounding.low := by
    have hm := significand_pos hzero
    have hu : 0 < 2 ^ x.power := Nat.two_pow_pos _
    apply Nat.mul_pos _ hu
    split <;> omega
  have hdown : 2 ^ (1076 + 1 + c.log2) ≤ 10 ^ (-place).toNat :=
    Nat.le_trans (Nat.pow_le_pow_right (by decide) (by omega)) (ten_pow_ge _)
  have hc (k : Nat) : c * 2 ^ k < 2 ^ (k + 1 + c.log2) := by
    rw [Nat.add_assoc, Nat.add_comm, Nat.pow_add, Nat.add_comm 1]
    exact Nat.mul_lt_mul_of_pos_right Nat.lt_log2_self (Nat.two_pow_pos k)
  have hc := hc 1076
  have hmul := Nat.mul_le_mul hone hdown
  omega

/-- A decimal in the interval of a double is read as that double. -/
theorem ofDecimal_eq {x : Binary64} (hfin : x.isFinite = true) (hzero : x.isZero = false) {c : Nat}
    (hc : c ≠ 0) {place : Int} (h : x.rounding.holds c place = true) :
    ofDecimal x.isNegative c place = x := by
  have hin := Rounding.contains_of_holds h
  have hhigh := place_le_of_holds hfin hc h
  have hlow := le_place_of_holds hzero h
  unfold ofDecimal
  rw [if_neg hc, if_neg (by omega), if_neg (by omega)]
  split
  · next hplace =>
    have hdown : (-place).toNat = 0 := by omega
    rw [hdown, Nat.pow_zero] at hin
    unfold nearest
    rw [nearestWord_eq hfin Nat.one_pos hin, ofWord_word_mod]
  · next hplace =>
    have hup : place.toNat = 0 := by omega
    rw [hup, Nat.pow_zero, Nat.mul_one] at hin
    unfold nearest
    rw [nearestWord_eq hfin (Nat.pow_pos (by decide)) hin, ofWord_word_mod]

/-- A zero of either sign is read from the digit 0. -/
theorem ofDecimal_zero {x : Binary64} (hzero : x.isZero = true) (place : Int) :
    ofDecimal x.isNegative 0 place = x := by
  have hword : x.word % 2 ^ 63 = 0 := by simpa [isZero] using hzero
  have h := x.ofWord_word_mod
  rw [hword] at h
  exact h

end RecordDesk.Binary64
