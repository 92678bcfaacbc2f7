import RecordDesk.Number.Numeral

/-!
Decimal numerals read back what they were written from, and what a text must look like for a number
to be read from it.
-/

namespace RecordDesk.Numeral

/-! ## Digits -/

theorem digitValue_digitChar {d : Nat} (h : d < 10) : digitValue (digitChar d) = d := by
  have hall : ∀ d, d < 10 → digitValue (digitChar d) = d := by decide
  exact hall d h

theorem isDigit_digitChar {d : Nat} (h : d < 10) : (digitChar d).isDigit = true := by
  have hall : ∀ d, d < 10 → (digitChar d).isDigit = true := by decide
  exact hall d h

/-- A digit is no sign. -/
theorem ne_sign_of_isDigit {c : Char} (h : c.isDigit = true) : c ≠ '-' ∧ c ≠ '+' := by
  constructor
  · rintro rfl
    revert h
    decide
  · rintro rfl
    revert h
    decide

theorem isDigit_of_mem_ofNat (n : Nat) : ∀ c ∈ ofNat n, c.isDigit = true := by
  induction n using ofNat.induct with
  | case1 n h =>
    intro c hc
    rw [ofNat, if_pos h] at hc
    rw [List.mem_singleton.1 hc]
    exact isDigit_digitChar h
  | case2 n h ih =>
    intro c hc
    rw [ofNat, if_neg h] at hc
    rcases List.mem_append.1 hc with hc | hc
    · exact ih c hc
    · rw [List.mem_singleton.1 hc]
      exact isDigit_digitChar (Nat.mod_lt n (by decide))

theorem foldl_value (cs : List Char) (v : Nat) :
    cs.foldl (fun v c => 10 * v + digitValue c) v = v * 10 ^ cs.length + value cs := by
  unfold value
  induction cs generalizing v with
  | nil => simp
  | cons c cs ih =>
    rw [List.foldl_cons, List.foldl_cons, ih (10 * v + digitValue c), ih (10 * 0 + digitValue c),
      List.length_cons, Nat.pow_succ, Nat.add_mul, Nat.mul_zero, Nat.zero_add, Nat.mul_comm 10 v,
      Nat.mul_assoc, Nat.mul_comm 10, Nat.add_assoc]

/-- The digits in front count for a power of ten more with each digit behind them. -/
theorem value_append (cs ds : List Char) : value (cs ++ ds) = value cs * 10 ^ ds.length + value ds := by
  rw [← foldl_value]
  unfold value
  exact List.foldl_append

theorem value_zeros (k : Nat) : value (List.replicate k '0') = 0 := by
  induction k with
  | zero => rfl
  | succ k ih =>
    rw [List.replicate_succ', value_append, ih]
    rfl

theorem value_ofNat (n : Nat) : value (ofNat n) = n := by
  induction n using ofNat.induct with
  | case1 n h =>
    rw [ofNat, if_pos h]
    show 10 * 0 + digitValue (digitChar n) = n
    rw [digitValue_digitChar h]
    omega
  | case2 n h ih =>
    have hlast : value [digitChar (n % 10)] = n % 10 := by
      show 10 * 0 + digitValue (digitChar (n % 10)) = n % 10
      rw [digitValue_digitChar (Nat.mod_lt n (by decide))]
      omega
    rw [ofNat, if_neg h, value_append, ih, hlast]
    show n / 10 * 10 + n % 10 = n
    omega

theorem length_pos (n : Nat) : 0 < length n := by
  rw [length]
  split <;> omega

/-- A number of so many digits is at least the power of ten of its leading one. -/
theorem pow_length_le {n : Nat} (h : 0 < n) : 10 ^ (length n - 1) ≤ n := by
  induction n using length.induct with
  | case1 n hlt =>
    rw [length, if_pos hlt]
    exact h
  | case2 n hlt ih =>
    have ih := ih (by omega)
    have hlen : length n - 1 = length (n / 10) - 1 + 1 := by
      have hpos := length_pos (n / 10)
      rw [length, if_neg hlt]
      omega
    rw [hlen, Nat.pow_succ]
    omega

/-! ## Reading -/

theorem isDigits_ofNat (n : Nat) : isDigits (ofNat n) = true := by
  unfold isDigits
  rw [Bool.and_eq_true, List.all_eq_true]
  refine ⟨?_, isDigit_of_mem_ofNat n⟩
  cases h : ofNat n with
  | nil => exact absurd h (ofNat_ne_nil n)
  | cons c cs => rfl

theorem toNat?_ofNat (n : Nat) : toNat? (ofNat n) = some n := by
  unfold toNat?
  rw [if_pos (isDigits_ofNat n), value_ofNat]

theorem isDigit_of_toNat? {cs : List Char} {n : Nat} (h : toNat? cs = some n) :
    ∀ c ∈ cs, c.isDigit = true := by
  unfold toNat? at h
  split at h
  · next hd =>
    unfold isDigits at hd
    rw [Bool.and_eq_true, List.all_eq_true] at hd
    exact hd.2
  · cases h

theorem unsigned?_ofNat (n : Nat) : unsigned? (ofNat n) = some n := by
  unfold unsigned?
  split
  · next cs h =>
    have hd := isDigit_of_mem_ofNat n '+' (by rw [h]; exact List.mem_cons_self)
    exact absurd rfl (ne_sign_of_isDigit hd).2
  · exact toNat?_ofNat n

/-- Reading an integer undoes writing it. -/
theorem signed?_ofInt (n : Int) : signed? (ofInt n) = some n := by
  unfold ofInt
  split
  · next h =>
    show (toNat? (ofNat n.natAbs)).map (fun m => -(m : Int)) = some n
    rw [toNat?_ofNat]
    show some (-(n.natAbs : Int)) = some n
    congr
    omega
  · next h =>
    unfold signed?
    split
    · next cs hcs =>
      have hd := isDigit_of_mem_ofNat n.natAbs '-' (by rw [hcs]; exact List.mem_cons_self)
      exact absurd rfl (ne_sign_of_isDigit hd).1
    · rw [unsigned?_ofNat]
      show some (n.natAbs : Int) = some n
      congr
      omega

/-- Nothing but digits and signs is read as an integer. -/
theorem chars_of_signed? {cs : List Char} {n : Int} (h : signed? cs = some n) :
    ∀ c ∈ cs, c.isDigit = true ∨ c = '-' ∨ c = '+' := by
  intro c hc
  unfold signed? at h
  split at h
  · obtain ⟨_, hn, -⟩ := Option.map_eq_some_iff.1 h
    obtain ⟨m, hm, -⟩ := Option.bind_eq_some_iff.1 hn
    rcases List.mem_cons.1 hc with rfl | hc
    · exact .inr (.inl rfl)
    · exact .inl (isDigit_of_toNat? hm c hc)
  · obtain ⟨_, hn, -⟩ := Option.map_eq_some_iff.1 h
    obtain ⟨m, hm, -⟩ := Option.bind_eq_some_iff.1 hn
    unfold unsigned? at hm
    split at hm
    · rcases List.mem_cons.1 hc with rfl | hc
      · exact .inr (.inr rfl)
      · exact .inl (isDigit_of_toNat? hm c hc)
    · exact .inl (isDigit_of_toNat? hm c hc)

end RecordDesk.Numeral
