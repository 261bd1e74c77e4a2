import SiteTrial.Yaml.Descent
import SiteTrial.Yaml.Made
/-!
# Reading YAML

* `Assembly` : a step that puts the parts of values together;
* `Yaml.read` : the value of a text, the absent value if it holds no document.

A value that holds itself is given a name where it begins, and refers to itself by that name.
-/

namespace SiteTrial.Yaml

/-- A step that puts parts together, with the values that are complete so far. -/
abbrev Assembly := StateM (List (Nat × Value))

namespace Assembly

/-- Parts that were put together one after another, with the names they refer to. -/
def all {α β : Type} (f : α → Assembly (β × List Nat)) (parts : List α) :
    Assembly (List β × List Nat) := do
  let done ← parts.mapM f
  return (done.map Prod.fst, done.flatMap Prod.snd)

/-- Whether something made is a mapping. -/
def isMapping : Made → Bool
  | .mapping _ => true
  | _ => false

/-- The value of a part, and the names it refers to, of the values that are open around it. -/
def value (made : Nat → Made) : Nat → (opened : List Nat) → Part → Assembly (Value × List Nat)
  | _, _, .scalar s => return (.scalar s, [])
  | 0, _, .node n => return (.again n (isMapping (made n)), [n])
  | rounds + 1, opened, .node n => do
    if opened.contains n then return (.again n (isMapping (made n)), [n])
    if let some v := (← get).lookup n then return (v, [])
    let inside := value made rounds (n :: opened)
    let (v, names) ← match made n with
      | .list items => do
        let (vs, names) ← all inside items
        pure (Value.list vs, names)
      | .mapping entries => do
        let (fs, names) ← all (fun e => do
          let (v, names) ← inside e.2
          return ((e.1, v), names)) entries
        pure (Value.mapping fs, names)
      | .members keys => pure (Value.members keys, [])
      | .entries pairs => do
        let (vs, names) ← all (fun e => do
          let (k, names) ← inside e.1
          let (v, more) ← inside e.2
          return (Value.entry k v, names ++ more)) pairs
        pure (Value.list vs, names)
    let v := if names.contains n then Value.named n v else v
    let others := names.filter (· != n)
    if others.isEmpty then modify fun done => (n, v) :: done
    return (v, others)

end Assembly

def read (s : String) : Except Problem Value := do
  match ← document? s with
  | none => return .null
  | some (first, graph) =>
    let (part, shop) ← (Making.made first).run { graph := graph }
    let made (n : Nat) : Made := (shop.made.lookup n).getD (.list [])
    return ((Assembly.value made (graph.size + 1) [] part).run []).1.1

end SiteTrial.Yaml
