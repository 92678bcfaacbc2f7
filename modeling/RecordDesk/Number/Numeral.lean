import RecordDesk.Number.Power

/-!
Decimal numerals: writing a number as digits, and reading digits with an optional sign.
-/

namespace RecordDesk.Numeral

def digitChar (d : Nat) : Char := Char.ofNat (48 + d)

def digitValue (c : Char) : Nat := c.toNat - 48

/-- The decimal digits of `n`, the leading one first. -/
def ofNat (n : Nat) : List Char :=
  if n < 10 then [digitChar n] else ofNat (n / 10) ++ [digitChar (n % 10)]

def ofInt (n : Int) : List Char :=
  if n < 0 then '-' :: ofNat n.natAbs else ofNat n.natAbs

/-- How many digits `ofNat` writes. -/
def length (n : Nat) : Nat := if n < 10 then 1 else length (n / 10) + 1

/-- The number that a list of digits stands for. -/
def value (cs : List Char) : Nat := cs.foldl (fun v c => 10 * v + digitValue c) 0

/-- At least one digit and nothing but digits. -/
def isDigits (cs : List Char) : Bool := !cs.isEmpty && cs.all Char.isDigit

def toNat? (cs : List Char) : Option Nat := if isDigits cs then some (value cs) else none

/-- Digits after an optional plus sign. -/
def unsigned? : List Char → Option Nat
  | '+' :: cs => toNat? cs
  | cs => toNat? cs

/-- Digits after an optional sign. -/
def signed? : List Char → Option Int
  | '-' :: cs => (toNat? cs).map fun n => -(n : Int)
  | cs => (unsigned? cs).map fun n => (n : Int)

/-- At least `width` digits, filled up with zeros on the left. -/
def padded (width n : Nat) : List Char :=
  List.replicate (width - length n) '0' ++ ofNat n

theorem ofNat_ne_nil (n : Nat) : ofNat n ≠ [] := by
  rw [ofNat]; split <;> simp

end RecordDesk.Numeral
