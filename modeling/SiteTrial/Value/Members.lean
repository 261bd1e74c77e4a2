import SiteTrial.Value.Basic
/-!
# The order of members

A collection of members has no order of its own. Where it is shown, numbers stand in the order of the
slots that they have in a table; of all other members the first one written is shown first.

* `Scalar.slotNumber?` : the number that the slot of a number is taken from: its remainder by `2 ^ 61 - 1`,
  so that numbers that are equal have the same, whatever their kind;
* `Members.slot` : the first free slot on the way that the number gives;
* `Members.ordered` : members in the order in which they are shown.
-/

namespace SiteTrial

namespace Scalar

/-- What remains of a size, with a sign; minus one is kept for another use. -/
def signedRest (negative : Bool) (size : Nat) : Int :=
  let rest : Int := (size % (Nat.pow 2 61 - 1) : Nat)
  if !negative then rest else if rest = 1 then -2 else -rest

/-- The number that the slot of a number is taken from. The remainder of two to the power of 61 is one,
so that an exponent counts by its own remainder. -/
def slotNumber? (s : Scalar) : Option Int :=
  match s with
  | .double x =>
    match Decimal.Binary.ofFloat x with
    | .notANumber => none
    | .infinite negative => some (signedRest negative 314159)
    | .finite negative m q => some (signedRest negative (m * Nat.pow 2 (q % 61).toNat))
  | s => s.toInt?.map fun n => signedRest (n < 0) n.natAbs

end Scalar

namespace Members

/-- How many slots a table for some members has. -/
def slots (count : Nat) : Nat := if count ≤ 4 then 8 else Nat.pow 2 ((2 * count).log2 + 1)

/-- How many slots behind the first are tried before another way is taken. -/
def neighbours : Nat := 9

/-- The first free slot from a place on; the higher digits of the number are brought in one after
another, five at a time. -/
def slot (isFree : Nat → Bool) (size : Nat) : Nat → (place number : Nat) → Nat
  | 0, place, _ => place
  | n + 1, place, number =>
    let tried := if place + neighbours < size then neighbours + 1 else 1
    match (List.range tried).find? fun i => isFree (place + i) with
    | some i => place + i
    | none =>
      let number := number / 32
      slot isFree size n ((5 * place + 1 + number) % size) number

/-- Puts a member into a table. -/
def enter (size : Nat) (table : List (Nat × Scalar)) (k : Scalar) (number : Int) :
    List (Nat × Scalar) :=
  let isFree (i : Nat) : Bool := (table.lookup i).isNone
  let place := slot isFree size (size + 16) (number % size).toNat (number % Nat.pow 2 64).toNat
  (place, k) :: table

def ordered (keys : List Scalar) : List Scalar :=
  match keys.mapM Scalar.slotNumber? with
  | none => keys
  | some numbers =>
    let size := slots keys.length
    let table := (keys.zip numbers).foldl (fun table e => enter size table e.1 e.2) []
    (table.mergeSort fun a b => a.1 ≤ b.1).map Prod.snd

end Members

end SiteTrial
