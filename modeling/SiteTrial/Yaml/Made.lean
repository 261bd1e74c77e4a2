import SiteTrial.Yaml.Graph
import SiteTrial.Value.Members
/-!
# What is made of nodes

Values are made from the outside in: a list or mapping is there at once, and what it holds is made
when its turn comes, in the order in which it was met. So a value can hold itself, and of two problems
the one in the earlier turn is met.

* `Part`, `Made` : a part of a value, and what is made of a node that is no scalar;
* `Graph.text` : the text of a node that should be a scalar;
* `Making` : a step that makes parts;
* `Making.made` : what all nodes come to that a node reaches.
-/

namespace SiteTrial.Yaml

inductive Part where
  | scalar (s : Scalar)
  | node (n : Nat)
deriving DecidableEq

inductive Made where
  | list (items : List Part)
  | mapping (entries : List (Scalar × Part))
  | members (keys : List Scalar)
  /-- A list of keys with their values. -/
  | entries (pairs : List (Part × Part))

/-- The text of a node that should be a scalar; a mapping has that of the value under its first lone
equals sign. -/
def Graph.text (g : Graph) : Nat → (n : Nat) → Except Problem String
  | 0, _ => .error .tooDeep
  | rounds + 1, n =>
    match (g.node n).content with
    | .scalar text => .ok text
    | .sequence _ => .error .malformed
    | .mapping entries =>
      match entries.find? fun e => g.kind e.1 = .value with
      | some e => g.text rounds e.2
      | none => .error .malformed

/-- Sets a key among entries: a known key keeps its place. -/
def putEntry (entries : List (Scalar × Part)) (k : Scalar) (p : Part) : List (Scalar × Part) :=
  match entries with
  | [] => [(k, p)]
  | (k', q) :: rest => if k'.same k then (k', p) :: rest else (k', q) :: putEntry rest k p

/-- The state of making values. -/
structure Workshop where
  graph : Graph
  /-- The nodes that are no scalars, in the order in which they were met. -/
  met : Array Nat := #[]
  /-- What was made of nodes so far. -/
  made : List (Nat × Made) := []

abbrev Making := StateT Workshop (Except Problem)

namespace Making

/-- The part that a node comes to. -/
def part (n : Nat) : Making Part := do
  let s ← get
  match s.graph.kind n with
  | .seq | .map | .set | .omap | .pairs => do
    if !s.met.contains n then set { s with met := s.met.push n }
    return .node n
  | kind =>
    let text ← match kind with
      | .merge | .value | .unknown => throw .malformed
      | _ => s.graph.text (s.graph.size + 1) n
    if kind = .timestamp && (s.graph.node n).entries?.isSome then throw .momentOfMapping
    return .scalar (← scalarValue kind text)

/-- The part that a node comes to as a key; lists and mappings are none. -/
def key (n : Nat) : Making Scalar := do
  match ← part n with
  | .scalar s => return s
  | .node _ => throw .malformed

/-- The entries of a mapping, with those that it takes over. -/
def entries (n : Nat) : Making (List (Scalar × Part)) := do
  let graph ← (← get).graph.merge n
  modify fun s => { s with graph := graph }
  ((graph.node n).entries?.getD []).foldlM (fun taken e => do
    let k ← key e.1
    let p ← part e.2
    return putEntry taken k p) []

/-- The only entry of a mapping. -/
def pair (n : Nat) : Making (Part × Part) := do
  match ((← get).graph.node n).entries? with
  | some [(k, v)] => return (← part k, ← part v)
  | _ => throw .malformed

/-- The members of a node that should be a list. -/
def items (n : Nat) : Making (List Nat) := do
  match ((← get).graph.node n).items? with
  | some items => return items
  | none => throw .malformed

/-- What a node comes to whose turn it is. -/
def make (n : Nat) : Making Made := do
  match (← get).graph.kind n with
  | .map => return .mapping (← entries n)
  | .set => return .members (Members.ordered ((← entries n).map Prod.fst))
  | .seq => return .list (← (← items n).mapM part)
  | _ => return .entries (← (← items n).mapM pair)

/-- Gives the nodes their turns, from a place among those met on. -/
def turns : Nat → (place : Nat) → Making Unit
  | 0, _ => return ()
  | rounds + 1, place => do
    match (← get).met[place]? with
    | none => return ()
    | some n => do
      let m ← make n
      modify fun s => { s with made := (n, m) :: s.made }
      turns rounds (place + 1)

/-- The part that a node comes to, and all that is made on the way. -/
def made (n : Nat) : Making Part := do
  let p ← part n
  turns ((← get).graph.size + 1) 0
  return p

end Making

end SiteTrial.Yaml
