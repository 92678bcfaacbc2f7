import RecordDesk.Number.Binary64
import RecordDesk.Number.Numeral

/-!
The fewest decimal digits that still name a double, and how such digits are laid out.

A decimal names the double when it lies in the interval of reals that round to it; the ends belong
to the interval exactly when the significand is even. For each count of digits the double has two
neighbours on the decimal grid of that many digits; the first grid with a neighbour in the interval
wins, and of two neighbours the nearer.
-/

namespace RecordDesk

/-- The number `digits * 10 ^ exponent`. -/
structure Decimal where
  digits : Nat
  exponent : Int

/-- A digit count that carried over into one more place loses its zero. -/
def Decimal.compact (d : Decimal) : Decimal :=
  if d.digits = 10 then ⟨1, d.exponent + 1⟩ else d

inductive TieRule where
  | up
  | toEven

namespace Binary64

/-- Four times the value and the two ends of its interval, all times `2 ^ 1074`. -/
structure Rounding where
  value : Nat
  low : Nat
  high : Nat
  closed : Bool

/-- Below a power of two the neighbouring double is only half as far away. -/
def rounding (x : Binary64) : Rounding :=
  let m := x.significand
  let u := 2 ^ x.power
  let gap := if m = 2 ^ 52 ∧ 0 < x.power then 1 else 2
  ⟨4 * m * u, (4 * m - gap) * u, (4 * m + 2) * u, m % 2 == 0⟩

/-- The place of the leading digit: the `e` with `10 ^ e ≤ x < 10 ^ (e + 1)`. -/
def leadingPlace (x : Binary64) : Int :=
  (Numeral.length (x.scaled * 10 ^ 350 / 2 ^ 1074) : Int) - 351

/-- `c * 10 ^ place` rounds to the double. -/
def Rounding.holds (r : Rounding) (c : Nat) (place : Int) : Bool :=
  let up := 10 ^ place.toNat
  let down := 10 ^ (-place).toNat
  let at4 := c * up * 2 ^ 1076
  if r.closed then r.low * down ≤ at4 && at4 ≤ r.high * down
  else r.low * down < at4 && at4 < r.high * down

/-- The neighbour of the double on the grid of multiples of `10 ^ place`, if one names it. -/
def Rounding.onGrid (r : Rounding) (tie : TieRule) (place : Int) : Option Decimal :=
  let n := r.value * 10 ^ (-place).toNat
  let d := 2 ^ 1076 * 10 ^ place.toNat
  let c := n / d
  let rest := 2 * (n % d)
  let above := d < rest || (d == rest && match tie with
    | .up => true
    | .toEven => c % 2 == 1)
  match r.holds c place && c != 0, r.holds (c + 1) place with
  | true, true => some ⟨if above then c + 1 else c, place⟩
  | true, false => some ⟨c, place⟩
  | false, true => some ⟨c + 1, place⟩
  | false, false => none

/-- The shortest decimal that names a finite double's absolute value; zero has the digit 0. -/
def shortest (tie : TieRule) (x : Binary64) : Decimal :=
  if x.isZero then ⟨0, 0⟩
  else
    let r := x.rounding
    let e := x.leadingPlace
    match (List.range 17).findSome? fun (k : Nat) => r.onGrid tie (e - (k : Int)) with
    | some d => d.compact
    | none => ⟨0, 0⟩

end Binary64

/-- How doubles are written in one format. -/
structure RealFormat where
  /-- The least and the greatest place of a leading digit that is written without an exponent. -/
  plainFrom : Int
  plainTo : Int
  /-- What stands between the `e` and an exponent that is not negative. -/
  exponentSign : List Char
  tie : TieRule

namespace RealFormat

/-- Digits with a point, at least one digit on either side of it. -/
def plain (digits : List Char) (place : Int) : List Char :=
  let n := digits.length
  if place < 0 then
    '0' :: '.' :: (List.replicate (-place - 1).toNat '0' ++ digits)
  else if n ≤ place.toNat + 1 then
    digits ++ List.replicate (place.toNat + 1 - n) '0' ++ ['.', '0']
  else
    digits.take (place.toNat + 1) ++ '.' :: digits.drop (place.toNat + 1)

/-- One digit before the point, and the place of that digit as the exponent. -/
def scientific (f : RealFormat) (digits : List Char) (place : Int) : List Char :=
  let mantissa := match digits with
    | [] => []
    | [d] => [d]
    | d :: ds => d :: '.' :: ds
  mantissa ++ 'e' :: ((if place < 0 then [] else f.exponentSign) ++ Numeral.ofInt place)

/-- A finite double in the format. -/
def write (f : RealFormat) (x : Binary64) : List Char :=
  let d := x.shortest f.tie
  let digits := Numeral.ofNat d.digits
  let place := d.exponent + digits.length - 1
  let text :=
    if f.plainFrom ≤ place && place ≤ f.plainTo then plain digits place
    else f.scientific digits place
  if x.isNegative then '-' :: text else text

end RealFormat

end RecordDesk
