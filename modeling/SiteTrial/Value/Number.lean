import SiteTrial.Value.Shown
import SiteTrial.Decimal.Numeral
import SiteTrial.Statistics.Arithmetic
/-!
# Numbers in values

* `doubleOfInt` : the double nearest to an integer, unless that lies beyond the doubles;
* `Value.numeric?` : the double of a numeric value; truth values count as numbers;
* `Value.exceeds` : whether a numeric value lies above an integer;
* `Value.toDouble`, `Value.toInteger` : the same for texts that hold a number as well.
-/

namespace SiteTrial

def doubleOfInt (n : Int) : Except Fault Float :=
  let x := Float.ofInt n
  if x.isFinite then .ok x else .error .integerTooLarge

namespace Value

/-- The double of a numeric value, and nothing for other values. -/
def numeric? : Value → Except Fault (Option Float)
  | .bool b => .ok (some (if b then 1.0 else 0.0))
  | .int n => (doubleOfInt n).map some
  | .double x => .ok (some x)
  | _ => .ok none

/-- The double of a numeric value, zero for other values. -/
def numericOrZero (v : Value) : Except Fault Float :=
  v.numeric?.map (·.getD 0.0)

def exceeds (v : Value) (n : Int) : Except Fault Bool :=
  match v with
  | .bool b => .ok (decide (n < if b then 1 else 0))
  | .int m => .ok (decide (n < m))
  | .double x => .ok (decide (Float.ofInt n < x))
  | v => .error (.unordered v.kind "int")

/-- The double of a numeric value or of a text that holds a number. -/
def toDouble (v : Value) : Except Fault Float :=
  match v with
  | .text s =>
    match Decimal.readDouble? s with
    | some x => .ok x
    | none => .error (.badNumeral v.shown)
  | .scalar (.bytes bs) =>
    match Decimal.readDouble? (String.ofList (bs.map Char.ofNat)) with
    | some x => .ok x
    | none => .error (.badNumeral v.shown)
  | v => v.numeric?.bind fun
    | some x => .ok x
    | none => .error (.notANumber v.kind)

/-- The integer of a number, its fraction cut off, or of a text that holds an integer. -/
def toInteger (v : Value) : Except Fault Int :=
  match v with
  | .bool b => .ok (if b then 1 else 0)
  | .int n => .ok n
  | .double x => integerOf .towardsZero x
  | .text s =>
    match Decimal.readInt? s with
    | some n => .ok n
    | none => .error (.badInteger v.shown)
  | .scalar (.bytes bs) =>
    match Decimal.readInt? (String.ofList (bs.map Char.ofNat)) with
    | some n => .ok n
    | none => .error (.badInteger v.shown)
  | v => .error (.notAnInteger v.kind)

end Value

end SiteTrial
