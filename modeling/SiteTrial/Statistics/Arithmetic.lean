import SiteTrial.Decimal.Binary
import SiteTrial.Failure
/-!
# The arithmetic of measurements

Summaries, comparisons and scores are computed in any arithmetic; programs run them on doubles.

* `Arithmetic` : the operations that statistics need, each with the failure it can end in;
* `Float.integer` : the integer below or above a double, or the failure that there is none;
* `Arithmetic Float` : doubles, every operation rounded once.
-/

namespace SiteTrial

class Arithmetic (α : Type) where
  add : α → α → α
  sub : α → α → α
  mul : α → α → α
  div : α → α → α
  abs : α → α
  /-- An integer as a measurement. -/
  ofInt : Int → α
  /-- The number `digits / 10 ^ places`. -/
  decimal : (digits places : Nat) → α
  /-- Whether one number is below another. -/
  lt : α → α → Bool
  /-- Whether two numbers are equal. -/
  eq : α → α → Bool
  floor : α → Except Fault Int
  ceil : α → Except Fault Int
  square : α → Except Fault α
  root : α → Except Fault α

namespace Arithmetic

/-! A type that has these operations of its own keeps them. -/

instance (priority := low) {α : Type} [Arithmetic α] : Add α := ⟨add⟩
instance (priority := low) {α : Type} [Arithmetic α] : Sub α := ⟨sub⟩
instance (priority := low) {α : Type} [Arithmetic α] : Mul α := ⟨mul⟩
instance (priority := low) {α : Type} [Arithmetic α] : Div α := ⟨div⟩

end Arithmetic

/-- The integer that stands for a double, or why there is none. -/
def integerOf (r : Decimal.Binary.Rounding) (x : Float) : Except Fault Int :=
  match Decimal.Binary.ofFloat x with
  | .notANumber => .error .undefinedInteger
  | .infinite _ => .error .infiniteInteger
  | .finite negative m q =>
    let (num, den) := Decimal.Binary.fraction m q
    .ok (r.apply negative num den)

/-- The second power of a double, which is rounded otherwise than the product once in some thousand times,
and is never far from it. -/
def secondPower (x : Float) : Float :=
  let product := x * x
  let power := x.pow 2.0
  if 0.0 < power && power ≤ product + product then power else product

/-- The square of a double as a power of it; it overflows only if the double itself is finite. -/
def squareOf (x : Float) : Except Fault Float :=
  let y := secondPower x
  if y.isInf && x.isFinite then .error .squareTooLarge else .ok y

/-- The root of a double that is not negative. -/
def rootOf (x : Float) : Except Fault Float :=
  if x < 0.0 then .error .rootOfNegative else .ok x.sqrt

instance : Arithmetic Float where
  add := Float.add
  sub := Float.sub
  mul := Float.mul
  div := Float.div
  abs := Float.abs
  ofInt := Float.ofInt
  decimal digits places := Float.ofScientific digits true places
  lt a b := a < b
  eq a b := a == b
  floor := integerOf .floor
  ceil := integerOf .ceil
  square := squareOf
  root := rootOf

end SiteTrial
