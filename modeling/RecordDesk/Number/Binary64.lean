import RecordDesk.Number.Power

/-!
Double-precision numbers as their 64 bits. A finite one has the absolute value
`significand * 2 ^ power / 2 ^ 1074`, so every question about values is one about natural numbers.
-/

namespace RecordDesk

structure Binary64 where
  bits : UInt64
  deriving DecidableEq, Inhabited

namespace Binary64

def word (x : Binary64) : Nat := x.bits.toNat

def isNegative (x : Binary64) : Bool := 2 ^ 63 ≤ x.word

def exponentField (x : Binary64) : Nat := x.word / 2 ^ 52 % 2048

def fraction (x : Binary64) : Nat := x.word % 2 ^ 52

def isFinite (x : Binary64) : Bool := x.exponentField != 2047

def isNaN (x : Binary64) : Bool := x.exponentField == 2047 && x.fraction != 0

def isZero (x : Binary64) : Bool := x.word % 2 ^ 63 == 0

def significand (x : Binary64) : Nat :=
  if x.exponentField = 0 then x.fraction else 2 ^ 52 + x.fraction

def power (x : Binary64) : Nat := x.exponentField - 1

/-- The absolute value of a finite number, times `2 ^ 1074`. -/
def scaled (x : Binary64) : Nat := x.significand * 2 ^ x.power

/-- Equal as numbers: the two zeros are the same, and a NaN equals nothing. -/
def same (x y : Binary64) : Bool := (x == y && !x.isNaN) || (x.isZero && y.isZero)

/-- The nearest natural number to `n / d`; a half goes to the even neighbour. -/
def nearestNat (n d : Nat) : Nat :=
  let q := n / d
  let r := n % d
  if 2 * r < d then q else if d < 2 * r then q + 1 else q + q % 2

/-- The word of a positive infinity. -/
def infinityWord : Nat := 2047 * 2 ^ 52

/-- The word of the double nearest to `n / d`, ties to even; too large a quotient gives infinity.
Significand and power add up to the word because the leading bit of a normal significand is the
carry into the exponent field. -/
def nearestWord (n d : Nat) : Nat :=
  let q := n * 2 ^ 1074 / d
  let p := if q < 2 ^ 53 then 0 else Nat.log2 q - 52
  min (p * 2 ^ 52 + nearestNat (n * 2 ^ 1074) (d * 2 ^ p)) infinityWord

def ofWord (negative : Bool) (w : Nat) : Binary64 :=
  ⟨UInt64.ofNat (if negative then 2 ^ 63 + w else w)⟩

/-- The double nearest to `n / d`, with a sign. -/
def nearest (negative : Bool) (n d : Nat) : Binary64 := ofWord negative (nearestWord n d)

/-- The double nearest to `digits * 10 ^ exponent`. Powers far outside the range of doubles are not
computed: more than 400 above gives infinity, more than 400 below the digits gives zero. -/
def ofDecimal (negative : Bool) (digits : Nat) (exponent : Int) : Binary64 :=
  if digits = 0 then ofWord negative 0
  else if 400 < exponent then ofWord negative infinityWord
  else if exponent < -(400 + Nat.log2 digits : Int) then ofWord negative 0
  else if 0 ≤ exponent then nearest negative (digits * 10 ^ exponent.toNat) 1
  else nearest negative digits (10 ^ (-exponent).toNat)

/-- The double nearest to the product of two finite ones' absolute values, with a sign. -/
def product (negative : Bool) (x y : Binary64) : Binary64 :=
  nearest negative (x.scaled * y.scaled) (2 ^ 2148)

/-- The double nearest to the quotient of two finite ones' absolute values, with a sign. -/
def quotient (negative : Bool) (x y : Binary64) : Binary64 := nearest negative x.scaled y.scaled

end Binary64

end RecordDesk
