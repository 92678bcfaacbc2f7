/-!
Powers of numbers are those of `NatPow` in the whole library. Where Mathlib is loaded, the power of a
monoid would be taken instead, and one text would stand for two terms.
-/

namespace RecordDesk

attribute [scoped instance (high)] instPowNat
attribute [default_instance high+1] instPowNat

end RecordDesk
