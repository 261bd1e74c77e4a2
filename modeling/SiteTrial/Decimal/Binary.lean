/-!
# Doubles taken apart

A finite double is a sign, a natural mantissa and a power of two.

* `Binary` : the four kinds of double; `Binary.ofFloat` reads them off the bits;
* `Binary.Rounding` and `Binary.toInt?` : the integer below, above, towards zero or nearest to a
  finite double, exact at every size;
* `compareInt` : the order of an integer and a double, without rounding the integer.
-/

namespace SiteTrial.Decimal

/-- A double taken apart: `finite negative m q` is `m * 2 ^ q` with a sign. -/
inductive Binary where
  | notANumber
  | infinite (negative : Bool)
  | finite (negative : Bool) (m : Nat) (q : Int)
deriving Repr, DecidableEq

namespace Binary

/-- The parts of a double, read off its bits. -/
def ofFloat (x : Float) : Binary :=
  let bits := x.toBits.toNat
  let negative := bits / Nat.pow 2 63 == 1
  let exponent : Nat := bits / Nat.pow 2 52 % Nat.pow 2 11
  let fraction : Nat := bits % Nat.pow 2 52
  if exponent = 2047 then
    if fraction = 0 then .infinite negative else .notANumber
  else if exponent = 0 then .finite negative fraction (-1074)
  else .finite negative (fraction + Nat.pow 2 52) ((exponent : Int) - 1075)

/-- The value as a fraction: numerator and positive denominator, the sign left out. -/
def fraction (m : Nat) (q : Int) : Nat × Nat :=
  if 0 ≤ q then (m * Nat.pow 2 q.toNat, 1) else (m, Nat.pow 2 (-q).toNat)

/-- Which integer stands for a number between two integers. -/
inductive Rounding where
  | floor
  | ceil
  | towardsZero
  | nearestEven
deriving Repr, DecidableEq

end Binary

/-- The quotient rounded to the nearest integer, a half to the even one. -/
def roundHalfEven (num den : Nat) : Nat :=
  let below := num / den
  match compare (2 * (num % den)) den with
  | .lt => below
  | .gt => below + 1
  | .eq => if below % 2 = 0 then below else below + 1

namespace Binary

/-- The integer that stands for `num / den` with the given sign. -/
def Rounding.apply (r : Rounding) (negative : Bool) (num den : Nat) : Int :=
  let down := num / den
  let up := if num % den = 0 then down else down + 1
  let size := match r with
    | .floor => if negative then up else down
    | .ceil => if negative then down else up
    | .towardsZero => down
    | .nearestEven => roundHalfEven num den
  if negative then -(size : Int) else size

def toInt? (r : Rounding) : Binary → Option Int
  | .finite negative m q => some (let (n, d) := fraction m q; r.apply negative n d)
  | _ => none

end Binary

/-- The order of an integer and a double; none beside a double that is no number. -/
def compareInt (n : Int) (x : Float) : Option Ordering :=
  match Binary.ofFloat x with
  | .notANumber => none
  | .infinite negative => some (if negative then .gt else .lt)
  | .finite negative m q =>
    let (num, den) := Binary.fraction m q
    some (compare (n * den) (if negative then -(num : Int) else num))

end SiteTrial.Decimal
