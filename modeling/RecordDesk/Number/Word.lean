/-!
Numbers in words of 64 bits. Arithmetic that leaves its word stops the program, which is not a failure that it reports.
-/

namespace RecordDesk

/-- Why a computation gives no value. -/
inductive Halt (ε : Type) where
  | failed (e : ε)
  | overflow
  deriving DecidableEq

def Halt.map {ε δ : Type} (f : ε → δ) : Halt ε → Halt δ
  | failed e => failed (f e)
  | overflow => overflow

/-- A number that has to fit 64 bits. -/
def fit64? (n : Nat) : Option Nat := if n < 2 ^ 64 then some n else none

theorem fit64?_eq_some_iff {n m : Nat} : fit64? n = some m ↔ n = m ∧ n < 2 ^ 64 := by
  unfold fit64?
  split
  · next h => rw [Option.some_inj, and_iff_left h]
  · next h => exact iff_of_false nofun fun hfit => h hfit.2

theorem fit64?_eq_none_iff {n : Nat} : fit64? n = none ↔ 2 ^ 64 ≤ n := by
  unfold fit64?
  split
  · next h => exact iff_of_false nofun (Nat.not_le.2 h)
  · next h => exact iff_of_true rfl (Nat.le_of_not_lt h)

end RecordDesk
