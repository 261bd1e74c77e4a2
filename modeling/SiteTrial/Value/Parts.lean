import SiteTrial.Value.Shown
import SiteTrial.Failure
/-!
# The parts of a value

* `Value.member` : the entry of a mapping under a text key, or the fault that the value is none;
* `Value.walk` : the members of a list, the keys of a mapping, the characters of a text;
* `Value.toFields` : a mapping, or a list of keys and values that makes one.
-/

namespace SiteTrial.Value

/-- The entry under a text key, absent if there is none. -/
def member (v : Value) (key : String) : Except Fault Value :=
  match v.fields? with
  | some fs => .ok (fs.get key)
  | none => .error (.noMember v.kind "get")

/-- The entry under a text key, or another value if there is none. -/
def memberD (v : Value) (key : String) (other : Value) : Except Fault Value :=
  match v.fields? with
  | some fs => .ok (fs.getD key other)
  | none => .error (.noMember v.kind "get")

/-- What a walk through the value visits. -/
def walk (v : Value) : Except Fault (List Value) :=
  match v.opened with
  | .list items => .ok items
  | .mapping fs => .ok (fs.map fun f => .scalar f.1)
  | .members ks => .ok (ks.map .scalar)
  | .entry k v => .ok [k, v]
  | .text s => .ok ((Text.pieces s.toList).map fun piece => .text (String.ofList piece))
  | .scalar (.bytes bs) => .ok (bs.map fun b => .int (Int.ofNat b))
  | v => .error (.notIterable v.kind)

def toKey : Value → Except Fault Scalar
  | .scalar s => .ok s
  | v => .error (.notAKey v.kind)

/-- A member of a list as a key and a value. -/
def toEntry (index : Nat) (v : Value) : Except Fault (Scalar × Value) :=
  match v.walk with
  | .error _ => .error (.pairExpected index)
  | .ok [k, w] => k.toKey.map (·, w)
  | .ok parts => .error (.notAPair index parts.length)

/-- Members of a list, from a place on, as keys and values. -/
def toEntries (index : Nat) : List Value → Except Fault (List (Scalar × Value))
  | [] => .ok []
  | v :: vs => do
    let e ← toEntry index v
    return e :: (← toEntries (index + 1) vs)

def toFields (v : Value) : Except Fault Fields :=
  match v.fields? with
  | some fs => .ok fs
  | none => do return Fields.ofList (← toEntries 0 (← v.walk))

end SiteTrial.Value
