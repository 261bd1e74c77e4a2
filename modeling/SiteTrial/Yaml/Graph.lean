import SiteTrial.Yaml.Plain
/-!
# The nodes of a document

* `Content`, `Node` : scalars, lists and mappings with their kinds; members are given by number;
* `Graph` : the nodes of a document by number. An alias is the number of the node it names, so that a
  node may be reached on several ways, and from itself;
* `Graph.merge` : writes out what the mappings under a node take over from others.
-/

namespace SiteTrial.Yaml

/-- What a node holds. -/
inductive Content where
  | scalar (text : String)
  | sequence (items : List Nat)
  | mapping (entries : List (Nat × Nat))
deriving Repr, DecidableEq

/-- A scalar, list or mapping of a document. -/
structure Node where
  kind : Tag
  content : Content
deriving Repr, DecidableEq

namespace Node

/-- The node that stands where nothing is written. -/
def empty : Node := ⟨.null, .scalar ""⟩

/-- The entries of a mapping. -/
def entries? (n : Node) : Option (List (Nat × Nat)) :=
  match n.content with
  | .mapping entries => some entries
  | _ => none

/-- The members of a list. -/
def items? (n : Node) : Option (List Nat) :=
  match n.content with
  | .sequence items => some items
  | _ => none

/-- How many parts a node has. -/
def width (n : Node) : Nat :=
  match n.content with
  | .scalar _ => 0
  | .sequence items => items.length
  | .mapping entries => entries.length

end Node

structure Graph where
  nodes : Array Node := #[]

namespace Graph

/-- How many nodes there are. -/
def size (g : Graph) : Nat := g.nodes.size

/-- The node of a number. -/
def node (g : Graph) (n : Nat) : Node := (g.nodes[n]?).getD .empty

def kind (g : Graph) (n : Nat) : Tag := (g.node n).kind

/-- Adds a node under the next number. -/
def add (g : Graph) (n : Node) : Graph := ⟨g.nodes.push n⟩

/-- Sets what a node holds. -/
def setContent (g : Graph) (n : Nat) (c : Content) : Graph :=
  ⟨g.nodes.modify n fun node => { node with content := c }⟩

/-- Makes a text of a lone equals sign that serves as a key. -/
def plainKey (g : Graph) (n : Nat) : Graph :=
  if g.kind n = .value then ⟨g.nodes.modify n fun node => { node with kind := .str }⟩ else g

/-- How many parts all nodes have together. -/
def width (g : Graph) : Nat := (g.nodes.toList.map Node.width).foldr (· + ·) 0

/-! ## Taking over entries -/

/-- The first entry whose key is a merge key, and the entries without it. -/
def splitMerge (g : Graph) : List (Nat × Nat) → Option (Nat × List (Nat × Nat))
  | [] => none
  | (k, v) :: rest =>
    if g.kind k = .merge then some (v, rest)
    else (splitMerge g rest).map fun r => (r.1, (k, v) :: r.2)

mutual

/-- The graph in which a mapping has the entries it takes over in front of its own. Merge keys are
removed as they are met, which ends the merging of a mapping that takes over itself. -/
def mergeInto : Nat → (n : Nat) → (taken : List (Nat × Nat)) → Graph → Except Problem Graph
  | 0, _, _, _ => .error .tooDeep
  | rounds + 1, n, taken, g =>
    match (g.node n).entries? with
    | none => .error .malformed
    | some entries =>
      match g.splitMerge entries with
      | none =>
        let g := entries.foldl (fun g e => g.plainKey e.1) g
        .ok (if taken.isEmpty then g else g.setContent n (.mapping (taken ++ entries)))
      | some (source, rest) => do
        let (g, more) ← broughtIn rounds source (g.setContent n (.mapping rest))
        mergeInto rounds n (taken ++ more) g

/-- The entries that the value of a merge key brings in: a mapping's, or those of the mappings in a
list, of which the last comes first. -/
def broughtIn : Nat → (source : Nat) → Graph → Except Problem (Graph × List (Nat × Nat))
  | 0, _, _ => .error .tooDeep
  | rounds + 1, source, g =>
    match (g.node source).content with
    | .scalar _ => .error .malformed
    | .mapping _ => do
      let g ← mergeInto rounds source [] g
      return (g, (g.node source).entries?.getD [])
    | .sequence items => do
      let (g, each) ← items.foldlM (fun (s : Graph × List (List (Nat × Nat))) item => do
        let g ← mergeInto rounds item [] s.1
        return (g, (g.node item).entries?.getD [] :: s.2)) (g, [])
      return (g, each.flatten)

end

/-- The graph in which a mapping has the entries it takes over; every round removes a merge key or
enters its value, so twice the parts suffice. -/
def merge (g : Graph) (n : Nat) : Except Problem Graph := mergeInto (2 * g.width + 3) n [] g

end Graph

end SiteTrial.Yaml
