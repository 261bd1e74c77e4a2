import SiteTrial.Json.Token
/-!
# Reading JSON

A text is read token by token with a stack of the lists and mappings that are open.

* `Json.Error` : the ways in which a text is no value;
* `Json.read` : the value of a text. Numbers that are no number or infinite are read, and of the
  entries of one key the last counts, at the place of the first.
-/

namespace SiteTrial.Json

inductive Error where
  | malformed
  /-- An integer with more digits than are read. -/
  | integerTooLong
  /-- Lists and mappings stand too deep inside each other. -/
  | tooDeep
deriving Repr, DecidableEq

/-- A list or mapping that is open; members of a list are held last one first. -/
inductive Frame where
  | list (items : List Value)
  | mapping (fields : Fields) (key : String)

/-- What may come next. -/
inductive Expecting where
  | value
  /-- A value or the end of the list just opened. -/
  | firstItem
  /-- A key or the end of the mapping just opened. -/
  | firstKey (fields : Fields)
  /-- A key behind a comma. -/
  | key (fields : Fields)
  | colon (fields : Fields) (key : String)
  /-- A comma or the end of the list. -/
  | afterItem (items : List Value)
  /-- A comma or the end of the mapping. -/
  | afterEntry (fields : Fields)
  /-- Nothing: the value is complete. -/
  | nothing (v : Value)

/-- Puts a complete value into the innermost open list or mapping. -/
def settle (stack : List Frame) (v : Value) : List Frame × Expecting :=
  match stack with
  | [] => ([], .nothing v)
  | .list items :: rest => (rest, .afterItem (v :: items))
  | .mapping fields key :: rest => (rest, .afterEntry (Fields.put fields (.text key) v))

/-- How deep lists and mappings may stand inside each other. -/
def deepest : Nat := 985

/-- The start of a list or mapping inside those that are open. -/
def enter (stack : List Frame) (e : Expecting) : Except Error (List Frame × Expecting) :=
  if stack.length < deepest then .ok (stack, e) else .error .tooDeep

/-- The start of a value. -/
def begin (stack : List Frame) (t : Token) : Except Error (List Frame × Expecting) :=
  match t with
  | .openList => enter stack .firstItem
  | .openMapping => enter stack (.firstKey [])
  | .text s => .ok (settle stack (.text s))
  | .value v => .ok (settle stack (.scalar v))
  | .tooLong => .error .integerTooLong
  | _ => .error .malformed

/-- What follows one token. -/
def step (stack : List Frame) (e : Expecting) (t : Token) : Except Error (List Frame × Expecting) :=
  match e, t with
  | .value, t => begin stack t
  | .firstItem, .closeList => .ok (settle stack (.list []))
  | .firstItem, t => begin (.list [] :: stack) t
  | .firstKey fields, .closeMapping => .ok (settle stack (.mapping fields))
  | .firstKey fields, .text key => .ok (stack, .colon fields key)
  | .key fields, .text key => .ok (stack, .colon fields key)
  | .colon fields key, .colon => .ok (.mapping fields key :: stack, .value)
  | .afterItem items, .comma => .ok (.list items :: stack, .value)
  | .afterItem items, .closeList => .ok (settle stack (.list items.reverse))
  | .afterEntry fields, .comma => .ok (stack, .key fields)
  | .afterEntry fields, .closeMapping => .ok (settle stack (.mapping fields))
  | _, _ => .error .malformed

/-- Reads tokens to their end. -/
def run (stack : List Frame) (e : Expecting) : List Token → Except Error Value
  | [] =>
    match e with
    | .nothing v => .ok v
    | _ => .error .malformed
  | t :: ts =>
    match step stack e t with
    | .error err => .error err
    | .ok (stack, e) => run stack e ts

def read (s : String) : Except Error Value := run [] .value (Token.ofChars s.toList)

end SiteTrial.Json
