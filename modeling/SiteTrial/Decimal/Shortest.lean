import SiteTrial.Decimal.Binary
/-!
# The digits of a double

* `Digits` : a number as decimal digits and the place of its point;
* `shortest` : the fewest digits that read back as the same double, the nearest of those;
* `toPlaces` : a given count of significant digits, the exact value rounded half to even.

The doubles around `m * 2 ^ q` that read back as it fill the interval `Around`; on the grid of the
`n`-digit decimals only the two neighbours of the value itself need to be tried.
-/

namespace SiteTrial.Decimal

/-- The number `0.d₁d₂… * 10 ^ point`, its digits written as one natural number. -/
structure Digits where
  /-- The digits as a natural number, without a leading zero. -/
  digits : List Char
  /-- How many of the digits stand before the point. -/
  point : Int
deriving Repr, DecidableEq

/-- The reals that round to one double: between `low / den` and `high / den`. -/
structure Around where
  low : Nat
  value : Nat
  high : Nat
  den : Nat
  /-- Whether the two ends round to the double too. -/
  closed : Bool

/-- The reals that round to `m * 2 ^ q`, in quarters of its last place. -/
def Around.of (m : Nat) (q : Int) : Around :=
  let below := if m = Nat.pow 2 52 ∧ q > -1074 then 1 else 2
  let (scale, den) := Binary.fraction 1 (q - 2)
  { low := (4 * m - below) * scale
    value := 4 * m * scale
    high := (4 * m + 2) * scale
    den := den
    closed := m % 2 == 0 }

/-- Whether the decimal `n * unit.1 / unit.2` reads back as the double. -/
def Around.reads (a : Around) (n : Nat) (unit : Nat × Nat) : Bool :=
  let x := n * unit.1 * a.den
  if a.closed then a.low * unit.2 ≤ x && x ≤ a.high * unit.2
  else a.low * unit.2 < x && x < a.high * unit.2

/-- `10 ^ e` as a fraction. -/
def powerOfTen (e : Int) : Nat × Nat :=
  if 0 ≤ e then (Nat.pow 10 e.toNat, 1) else (1, Nat.pow 10 (-e).toNat)

def belowPower (num den : Nat) (e : Int) : Bool :=
  let p := powerOfTen e
  num * p.2 < p.1 * den

/-- The least `e` with `num / den < 10 ^ e`, for a positive fraction. -/
def magnitude (num den : Nat) : Int :=
  let guess := ((num.log2 : Int) - (den.log2 : Int)) * 30103 / 100000 - 1
  if belowPower num den guess then guess
  else if belowPower num den (guess + 1) then guess + 1
  else if belowPower num den (guess + 2) then guess + 2
  else guess + 3

/-- The decimal digits of a natural number. -/
def digitsOf (n : Nat) : List Char := Nat.toDigits 10 n

/-- Digits without the zeros at their end. -/
def dropTrailingZeros (ds : List Char) : List Char :=
  (ds.reverse.dropWhile (· == '0')).reverse

/-- The decimal with `count` digits next to the value that reads back as the double, if one does. -/
def Around.hit? (a : Around) (e : Int) (count : Nat) : Option Digits :=
  let unit := powerOfTen (e - count)
  let num := a.value * unit.2
  let den := a.den * unit.1
  let below := num / den
  let nearest := roundHalfEven num den
  let other := if nearest = below then below + 1 else below
  let make (n : Nat) : Digits :=
    let ds := digitsOf n
    ⟨dropTrailingZeros ds, e - count + ds.length⟩
  if nearest > 0 && a.reads nearest unit then some (make nearest)
  else if other > 0 && a.reads other unit then some (make other)
  else none

/-- The fewest digits that read back as `m * 2 ^ q`; seventeen always do. -/
def shortest (m : Nat) (q : Int) : Digits :=
  if m = 0 then ⟨['0'], 1⟩
  else
    let a := Around.of m q
    let e := magnitude a.value a.den
    ((List.range 17).findSome? fun i => a.hit? e (i + 1)).getD ⟨['0'], 1⟩

def toPlaces (count : Nat) (m : Nat) (q : Int) : Digits :=
  if m = 0 then ⟨['0'], 1⟩
  else
    let (num, den) := Binary.fraction m q
    let e := magnitude num den
    let unit := powerOfTen (e - count)
    let ds := digitsOf (roundHalfEven (num * unit.2) (den * unit.1))
    ⟨dropTrailingZeros ds, e - count + ds.length⟩

end SiteTrial.Decimal
