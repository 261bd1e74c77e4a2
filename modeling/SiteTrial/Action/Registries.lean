import SiteTrial.Action.Registry
/-!
# Several registries

Registries begin empty or as copies of others, and each is then set up on its own.

* `Registries.named` : the registry of a name;
* `Registries.register`, `Registries.copy` : setting a handler in one of them, and copying one;
* `Registries.Change`, `Registries.after` : what is done to registries, one thing after another.
-/

namespace SiteTrial

/-- Registries by names of their own. -/
abbrev Registries (α : Type) := Table (Registry α)

namespace Registries

variable {α : Type}

/-- The registry of a name, which is empty if nothing was done to it. -/
def named (rs : Registries α) (registry : String) : Registry α := (rs.get? registry).getD {}

/-- Sets the handler of an action in one registry. -/
def register (rs : Registries α) (registry action : String) (handler : α) : Registries α :=
  rs.put registry ((named rs registry).register action handler)

/-- Makes one registry a copy of another. -/
def copy (rs : Registries α) (registry clone : String) : Registries α :=
  rs.put clone (named rs registry)

/-- One thing done to registries. -/
inductive Change (α : Type) where
  | register (registry action : String) (handler : α)
  | copy (registry clone : String)

def change (rs : Registries α) : Change α → Registries α
  | .register registry action handler => register rs registry action handler
  | .copy registry clone => copy rs registry clone

/-- The registries after changes one after another. -/
def after (changes : List (Change α)) : Registries α := changes.foldl change []

end Registries

end SiteTrial
