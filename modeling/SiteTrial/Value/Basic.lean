import SiteTrial.Value.Calendar
import SiteTrial.Decimal.Binary
/-!
# Values of documents

What a scenario file, a configuration file, a record or a page's script can hold.

* `Scalar` : the values that can be keys; `Scalar.same` is their equality as keys;
* `Value` : scalars, lists, mappings in the order of their first keys, and the rarer collections. A
  value that holds itself has a name, by which it refers to itself;
* `Value.opened` : a value without the name around it, what it holds being named in full;
* `Value.items?`, `Value.fields?` : the members of a list and the entries of a mapping;
* `Fields.find?`, `Fields.put` : looking a key up and setting it, the place of a known key kept;
* `Value.get?` : the entry of a mapping under a text key;
* `Value.isTruthy` : neither absent, false, zero nor empty;
* `Value.toDouble?` : the number of a numeric value; truth values count as numbers.
-/

namespace SiteTrial

/-- A value without parts. -/
inductive Scalar where
  | null
  | bool (b : Bool)
  | int (n : Int)
  | double (x : Float)
  | text (s : String)
  | date (d : Date)
  | moment (m : Moment)
  | bytes (bs : List Nat)
deriving DecidableEq

namespace Scalar

/-- The integer that a truth value or integer stands for. -/
def toInt? : Scalar → Option Int
  | .bool b => some (if b then 1 else 0)
  | .int n => some n
  | _ => none

/-- Equality as keys: numbers by value, whatever their kind, and all else by kind and content; a double
that is no number is one key. -/
def same (a b : Scalar) : Bool :=
  match a, b with
  | .double x, .double y => x == y || (x.isNaN && y.isNaN)
  | .double x, b => (b.toInt?.bind (Decimal.compareInt · x)) == some .eq
  | a, .double y => (a.toInt?.bind (Decimal.compareInt · y)) == some .eq
  | a, b =>
    match a.toInt?, b.toInt? with
    | some m, some n => m == n
    | none, none =>
      match a, b with
      | .moment m, .moment n => m.same n
      | a, b => decide (a = b)
    | _, _ => false

end Scalar

/-- A value of a document. -/
inductive Value where
  | scalar (s : Scalar)
  | list (items : List Value)
  | mapping (fields : List (Scalar × Value))
  /-- Members without order or repetition. -/
  | members (keys : List Scalar)
  /-- One entry of a list of entries. -/
  | entry (key value : Value)
  /-- A list or mapping that holds itself, and the name it has inside. -/
  | named (name : Nat) (v : Value)
  /-- The list or mapping around that has the name. -/
  | again (name : Nat) (isMapping : Bool)

/-- The entries of a mapping. -/
abbrev Fields := List (Scalar × Value)

namespace Value

/-- The absent value. -/
@[match_pattern] abbrev null : Value := .scalar .null
/-- A truth value. -/
@[match_pattern] abbrev bool (b : Bool) : Value := .scalar (.bool b)
/-- An integer. -/
@[match_pattern] abbrev int (n : Int) : Value := .scalar (.int n)
@[match_pattern] abbrev double (x : Float) : Value := .scalar (.double x)
@[match_pattern] abbrev text (s : String) : Value := .scalar (.text s)

instance : Inhabited Value := ⟨.null⟩

end Value

namespace Fields

/-- The value under a key. -/
def find? (fs : Fields) (k : Scalar) : Option Value :=
  match fs with
  | [] => none
  | (k', v) :: rest => if k'.same k then some v else find? rest k

/-- Sets a key: a known key keeps its place, a new one goes to the end. -/
def put (fs : Fields) (k : Scalar) (v : Value) : Fields :=
  match fs with
  | [] => [(k, v)]
  | (k', w) :: rest => if k'.same k then (k', v) :: rest else (k', w) :: put rest k v

/-- The entries written one after another. -/
def ofList (entries : List (Scalar × Value)) : Fields :=
  entries.foldl (fun fs e => put fs e.1 e.2) []

def get? (fs : Fields) (k : String) : Option Value := find? fs (.text k)

/-- The value under a text key, or another one. -/
def getD (fs : Fields) (k : String) (other : Value) : Value := (get? fs k).getD other

/-- The value under a text key, or the absent value. -/
def get (fs : Fields) (k : String) : Value := getD fs k .null

end Fields

namespace Value

mutual

/-- A value in which another one stands wherever a name is referred to. -/
def bindName (name : Nat) (whole : Value) : Value → Value
  | .scalar s => .scalar s
  | .list items => .list (bindNameItems name whole items)
  | .mapping fs => .mapping (bindNameFields name whole fs)
  | .members keys => .members keys
  | .entry k v => .entry (bindName name whole k) (bindName name whole v)
  | .named n v => .named n (if n = name then v else bindName name whole v)
  | .again n isMapping => if n = name then whole else .again n isMapping

/-- The members of a list with another value for a name. -/
def bindNameItems (name : Nat) (whole : Value) : List Value → List Value
  | [] => []
  | v :: vs => bindName name whole v :: bindNameItems name whole vs

/-- The entries of a mapping with another value for a name. -/
def bindNameFields (name : Nat) (whole : Value) : List (Scalar × Value) → List (Scalar × Value)
  | [] => []
  | (k, v) :: fs => (k, bindName name whole v) :: bindNameFields name whole fs

end

/-- A value without the name around it; where it refers to itself, the value with its name stands. -/
def opened : Value → Value
  | .named n v => bindName n (.named n v) v
  | v => v

def items? (v : Value) : Option (List Value) :=
  match v.opened with
  | .list items => some items
  | _ => none

def fields? (v : Value) : Option Fields :=
  match v.opened with
  | .mapping fs => some fs
  | _ => none

/-- The characters of a text value. -/
def text? : Value → Option String
  | .text s => some s
  | _ => none

def isTruthy : Value → Bool
  | .scalar .null => false
  | .scalar (.bool b) => b
  | .scalar (.int n) => n != 0
  | .scalar (.double x) => !(x == 0.0)
  | .scalar (.text s) => !s.isEmpty
  | .scalar (.bytes bs) => !bs.isEmpty
  | .scalar _ => true
  | .list items => !items.isEmpty
  | .mapping fs => !fs.isEmpty
  | .members ks => !ks.isEmpty
  | .named _ v => v.isTruthy
  | .entry _ _ | .again _ _ => true

/-- The value itself if it is truthy, else another one. -/
def orElse (v other : Value) : Value := if v.isTruthy then v else other

/-- Whether the value counts as a number: truth values do. -/
def isNumeric : Value → Bool
  | .bool _ | .int _ | .double _ => true
  | _ => false

/-- Whether the value is the absent one. -/
def isNull : Value → Bool
  | .null => true
  | _ => false

/-- A mapping with text keys. -/
def record (entries : List (String × Value)) : Value :=
  .mapping (entries.map fun e => (.text e.1, e.2))

end Value

end SiteTrial
