import SiteTrial.Table
import SiteTrial.Text.Blank
import SiteTrial.Text.Casing
/-!
# The registry of actions

Actions have names of words joined by hyphens; the spelling with capitals for hyphens means the same
name.

* `Registry.normalize` : the form under which a name is kept;
* `Registry.register`, `Registry.get?` : setting and looking up the handler of a name;
* `Registry.names` : the names in order.
-/

namespace SiteTrial

/-- Handlers of actions by their names. -/
structure Registry (α : Type) where
  handlers : Table α := []

namespace Registry

/-- A hyphen in front of every capital of the alphabet. -/
def hyphenate : List Char → List Char
  | [] => []
  | c :: cs => if c.isUpper then '-' :: c :: hyphenate cs else c :: hyphenate cs

/-- A hyphen in front of every capital but the first character. -/
def hyphenateRest : List Char → List Char
  | [] => []
  | c :: cs => c :: hyphenate cs

def normalize (name : String) : String :=
  Text.lower (String.ofList (hyphenateRest (Text.trimChars name.toList)))

variable {α : Type}

/-- Sets the handler of a name. -/
def register (r : Registry α) (name : String) (handler : α) : Registry α :=
  ⟨r.handlers.put (normalize name) handler⟩

def get? (r : Registry α) (name : String) : Option α := r.handlers.get? (normalize name)

/-- Whether a name has a handler. -/
def contains (r : Registry α) (name : String) : Bool := (r.get? name).isSome

/-- The names in the order of their characters. -/
def names (r : Registry α) : List String :=
  r.handlers.keys.mergeSort fun a b => !decide (b < a)

/-- The same names with other handlers. -/
def map {β : Type} (f : α → β) (r : Registry α) : Registry β :=
  ⟨r.handlers.map fun e => (e.1, f e.2)⟩

/-- The registry of some names. -/
def ofList (entries : List (String × α)) : Registry α :=
  entries.foldl (fun r e => r.register e.1 e.2) {}

end Registry

end SiteTrial
