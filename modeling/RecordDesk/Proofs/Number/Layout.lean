import RecordDesk.Number.Shortest
import RecordDesk.Proofs.Number.Numerals

/-!
How the digits of a real are laid out: with a point among them or zeros around them, and what number
the digits on the page are.
-/

namespace RecordDesk.RealFormat

theorem isDigit_of_mem_zeros {k : Nat} : ∀ c ∈ List.replicate k '0', c.isDigit = true := by
  intro c hc
  rw [List.eq_of_mem_replicate hc]
  decide

/-- A positional layout has digits on both sides of its point. Together they are the digits that were
given, followed by so many zeros as the point stands too far to the right. -/
theorem exists_plain_eq {digits : List Char} (hne : digits ≠ [])
    (hdigits : ∀ c ∈ digits, c.isDigit = true) (place : Int) :
    ∃ (whole fractional : List Char) (k : Nat),
      plain digits place = whole ++ '.' :: fractional ∧ whole ≠ [] ∧
        (∀ c ∈ whole ++ fractional, c.isDigit = true) ∧
        Numeral.value (whole ++ fractional) = Numeral.value digits * 10 ^ k ∧
        (fractional.length : Int) = k + digits.length - 1 - place := by
  have hlen : 0 < digits.length := List.length_pos_iff.2 hne
  unfold plain
  dsimp only
  split
  · -- Zeros stand between the point and the digits.
    next hplace =>
    refine ⟨['0'], List.replicate (-place - 1).toNat '0' ++ digits, 0, rfl, by simp, ?_, ?_, ?_⟩
    · rw [List.forall_mem_append, List.forall_mem_append]
      exact ⟨isDigit_of_mem_zeros (k := 1), isDigit_of_mem_zeros, hdigits⟩
    · have hlead : Numeral.value (['0'] ++ List.replicate (-place - 1).toNat '0') = 0 :=
        Numeral.value_zeros ((-place - 1).toNat + 1)
      rw [← List.append_assoc, Numeral.value_append, hlead]
      omega
    · rw [List.length_append, List.length_replicate]
      omega
  · split
    · -- Zeros stand between the digits and the point.
      next hplace hlong =>
      refine ⟨digits ++ List.replicate (place.toNat + 1 - digits.length) '0', ['0'],
        place.toNat + 1 - digits.length + 1, by simp, by simp [hne], ?_, ?_, ?_⟩
      · rw [List.forall_mem_append, List.forall_mem_append]
        exact ⟨⟨hdigits, isDigit_of_mem_zeros⟩, isDigit_of_mem_zeros (k := 1)⟩
      · have htail : List.replicate (place.toNat + 1 - digits.length) '0' ++ ['0'] =
            List.replicate (place.toNat + 1 - digits.length + 1) '0' := List.replicate_succ'.symm
        rw [List.append_assoc, htail, Numeral.value_append, Numeral.value_zeros,
          List.length_replicate, Nat.add_zero]
      · simp only [List.length_singleton]
        omega
    · -- The point stands among the digits.
      next hplace hlong =>
      refine ⟨digits.take (place.toNat + 1), digits.drop (place.toNat + 1), 0, rfl, ?_, ?_, ?_, ?_⟩
      · simp [hne]
      · rw [List.take_append_drop]
        exact hdigits
      · rw [List.take_append_drop]
        omega
      · rw [List.length_drop]
        omega

end RecordDesk.RealFormat
