import SiteTrial.Yaml.Scan
import SiteTrial.Yaml.Graph
import SiteTrial.Table
/-!
# From tokens to nodes

* `Descent` : a step through the tokens that adds nodes to a graph;
* `Descent.node` : the number of the node that begins at the next token;
* `Descent.document?` : the node of the one document of a text, if there is one;
* `document?` : the graph of a text and its first node.

The grammar is followed by descent; every round takes a token or ends, and a character makes at most
four tokens, so a number of rounds in proportion to the text suffices.
-/

namespace SiteTrial.Yaml

/-- The state of a descent. -/
structure Progress where
  scan : Scan
  handles : Table String := [("!", "!"), ("!!", "tag:yaml.org,2002:")]
  /-- The numbers of the nodes named so far; a node has its number before its members have theirs. -/
  anchors : Table Nat := []
  graph : Graph := {}

abbrev Descent := StateT Progress (Except Problem)

namespace Descent

/-- How deep lists and mappings may stand inside each other. -/
def deepest : Nat := 487

/-- A text that breaks a rule of the grammar. -/
def refuse {α : Type} : Descent α := throw .malformed

/-- The next token. -/
def peek : Descent Token := do
  let s ← get
  let (t, scan) ← s.scan.next
  set { s with scan := scan }
  return t

/-- Takes the next token. -/
def take : Descent Unit := modify fun s => { s with scan := s.scan.take }

/-- Takes the next token if it is the given one. -/
def takeIf (t : Token) : Descent Bool := do
  if (← peek) == t then
    take
    return true
  else return false

/-- Takes the given token. -/
def need (t : Token) : Descent Unit := do
  if !(← takeIf t) then refuse

/-- Whether the next token is one of some. -/
def among (ts : List Token) : Descent Bool := return ts.contains (← peek)

/-- How many rounds exceed the tokens left. -/
def rounds : Descent Nat := return 16 * ((← get).scan.cursor.rest.length + (← get).scan.queue.length) + 64

/-! ## In front of a node -/

/-- What stands in front of a node: a name for it and the tag it is given. -/
structure Properties where
  anchor : Option String := none
  tag : Option (Option String × String) := none

/-- A name or a tag, if one comes next and is not there yet. -/
def property (p : Properties) : Descent Properties := do
  match ← peek, p.anchor, p.tag with
  | .anchor name, none, _ => do
    take
    return { p with anchor := some name }
  | .tag handle suffix, _, none => do
    take
    return { p with tag := some (handle, suffix) }
  | _, _, _ => return p

/-- The full tag of a handle and a suffix. -/
def fullTag : Option (Option String × String) → Descent (Option String)
  | none => return none
  | some (none, suffix) => return some suffix
  | some (some handle, suffix) => do
    match (← get).handles.get? handle with
    | some expansion => return some (expansion ++ suffix)
    | none => refuse

/-- The kind that a full tag gives a node; none given and a mere mark leave it to the node. -/
def kindOf (given : Option String) (own : Tag) : Tag :=
  match given with
  | none => own
  | some name => if name = "!" then own else Tag.ofName name

/-! ## Nodes -/

/-- The node of a name. -/
def named (name : String) : Descent Nat := do
  match (← get).anchors.get? name with
  | some n => return n
  | none => refuse

/-- Adds a node, under its name if it has one; a name is given once. -/
def add (anchor : Option String) (n : Node) : Descent Nat := do
  let s ← get
  if anchor.any s.anchors.has then refuse
  let number := s.graph.size
  set { s with
    graph := s.graph.add n
    anchors := match anchor with
      | some name => s.anchors.put name number
      | none => s.anchors }
  return number

def addScalar (anchor given : Option String) (text : String) (plain : Bool) : Descent Nat :=
  let own := if plain || given.isSome then Tag.ofPlain text else .str
  add anchor ⟨kindOf given own, .scalar text⟩

/-- Adds the node that stands where nothing is written. -/
def addEmpty : Descent Nat := add none .empty

/-- Adds a list or mapping inside some others, and then what it holds. -/
def addHolder (depth : Nat) (anchor : Option String) (kind : Tag) (content : Descent Content) :
    Descent Nat := do
  if deepest < depth then throw .tooDeep
  let number ← add anchor ⟨kind, .sequence []⟩
  let content ← content
  modify fun s => { s with graph := s.graph.setContent number content }
  return number

/-- A node of which only a name or a tag is written. -/
def bare (p : Properties) (given : Option String) : Descent Nat :=
  if p.anchor.isSome || p.tag.isSome then addScalar p.anchor given "" true else refuse

mutual

/-- A node inside some lists and mappings; `block` allows blocks and `indentless` a list without
indentation of its own. -/
def node : Nat → (depth : Nat) → (block indentless : Bool) → Descent Nat
  | 0, _, _, _ => refuse
  | n + 1, depth, block, indentless => do
    if let .alias name := ← peek then
      take
      return ← named name
    let p ← property (← property {})
    let given ← fullTag p.tag
    let list := addHolder depth p.anchor (kindOf given .seq)
    let mapping := addHolder depth p.anchor (kindOf given .map)
    match ← peek with
    | .scalar text plain => do
      take
      addScalar p.anchor given text plain
    | .flowSequenceStart => do
      take
      list (.sequence <$> flowItems n (depth + 1) true)
    | .flowMappingStart => do
      take
      mapping (.mapping <$> flowEntries n (depth + 1) true)
    | .blockEntry =>
      if indentless then list (.sequence <$> indentlessItems n (depth + 1))
      else bare p given
    | .blockSequenceStart =>
      if block then do
        take
        list (.sequence <$> blockItems n (depth + 1))
      else bare p given
    | .blockMappingStart =>
      if block then do
        take
        mapping (.mapping <$> blockEntries n (depth + 1))
      else bare p given
    | _ => bare p given

/-- The members of a list in a block. -/
def blockItems : Nat → (depth : Nat) → Descent (List Nat)
  | 0, _ => refuse
  | n + 1, depth => do
    if ← takeIf .blockEntry then
      let item ← if ← among [.blockEntry, .blockEnd] then addEmpty else node n depth true false
      return item :: (← blockItems n depth)
    else
      need .blockEnd
      return []

/-- The members of a list that stands at the indentation of its key. -/
def indentlessItems : Nat → (depth : Nat) → Descent (List Nat)
  | 0, _ => refuse
  | n + 1, depth => do
    if ← takeIf .blockEntry then
      let item ← if ← among [.blockEntry, .key, .value, .blockEnd] then addEmpty
        else node n depth true false
      return item :: (← indentlessItems n depth)
    else return []

/-- A key or value in a block, which may be left out. -/
def blockPart : Nat → (depth : Nat) → Descent Nat
  | 0, _ => refuse
  | n + 1, depth => do
    if ← among [.key, .value, .blockEnd] then addEmpty else node n depth true true

/-- The entries of a mapping in a block. -/
def blockEntries : Nat → (depth : Nat) → Descent (List (Nat × Nat))
  | 0, _ => refuse
  | n + 1, depth => do
    if ← takeIf .key then
      let k ← blockPart n depth
      let v ← if ← takeIf .value then blockPart n depth else addEmpty
      return (k, v) :: (← blockEntries n depth)
    else
      need .blockEnd
      return []

/-- A key or value between brackets, which may be left out before some tokens. -/
def flowPart : Nat → (depth : Nat) → List Token → Descent Nat
  | 0, _, _ => refuse
  | n + 1, depth, ends => do
    if ← among ends then addEmpty else node n depth false false

/-- A value between brackets behind its mark, or nothing. -/
def flowValue : Nat → (depth : Nat) → Token → Descent Nat
  | 0, _, _ => refuse
  | n + 1, depth, closing => do
    if ← takeIf .value then flowPart n depth [.flowEntry, closing] else addEmpty

/-- The members of a list in brackets; a key makes a mapping of one entry. -/
def flowItems : Nat → (depth : Nat) → (first : Bool) → Descent (List Nat)
  | 0, _, _ => refuse
  | n + 1, depth, first => do
    if ← takeIf .flowSequenceEnd then return []
    if !first then need .flowEntry
    if ← takeIf .key then
      let entry : Descent Content := do
        let k ← flowPart n (depth + 1) [.value, .flowEntry, .flowSequenceEnd]
        let v ← flowValue n (depth + 1) .flowSequenceEnd
        return .mapping [(k, v)]
      let item ← addHolder depth none .map entry
      return item :: (← flowItems n depth false)
    else if ← takeIf .flowSequenceEnd then return []
    else
      let item ← node n depth false false
      return item :: (← flowItems n depth false)

/-- The entries of a mapping in brackets. -/
def flowEntries : Nat → (depth : Nat) → (first : Bool) → Descent (List (Nat × Nat))
  | 0, _, _ => refuse
  | n + 1, depth, first => do
    if ← takeIf .flowMappingEnd then return []
    if !first then need .flowEntry
    if ← takeIf .key then
      let k ← flowPart n depth [.value, .flowEntry, .flowMappingEnd]
      let v ← flowValue n depth .flowMappingEnd
      return (k, v) :: (← flowEntries n depth false)
    else if ← takeIf .flowMappingEnd then return []
    else
      let k ← node n depth false false
      return (k, ← addEmpty) :: (← flowEntries n depth false)

end

/-! ## Documents -/

/-- Directives in front of a document: one version at most, and one expansion for each handle. -/
def directives : Nat → (version : Bool) → Table String → Descent (Table String)
  | 0, _, _ => refuse
  | n + 1, version, handles => do
    match ← peek with
    | .versionDirective major => do
      take
      if version || major != 1 then refuse
      directives n true handles
    | .tagDirective handle expansion => do
      take
      if handles.has handle then refuse
      directives n version (handles.put handle expansion)
    | .otherDirective => do
      take
      directives n version handles
    | _ => return handles

/-- The handles with those that every document has. -/
def withDefaults (handles : Table String) : Table String :=
  (handles.putNew "!" "!").putNew "!!" "tag:yaml.org,2002:"

/-- Whether a document begins without a mark. -/
def beginsBare : Token → Bool
  | .versionDirective _ | .tagDirective .. | .otherDirective | .documentStart | .streamEnd => false
  | _ => true

/-- Whether a document is left empty. -/
def isLeftEmpty : Token → Bool
  | .documentEnd => true
  | t => !beginsBare t

/-- Takes the marks that may end a document. -/
def endMarks : Nat → Descent Unit
  | 0 => return ()
  | n + 1 => do
    if ← takeIf .documentEnd then endMarks n

/-- The start of a document with a mark, behind its directives. -/
def startMark : Descent Unit := do
  let handles ← directives (← rounds) false []
  need .documentStart
  modify fun s => { s with handles := withDefaults handles }

/-- Behind the document stands no other. -/
def noOther : Descent Unit := do
  endMarks (← rounds)
  if (← peek) != .streamEnd then
    startMark
    refuse

def document? : Descent (Option Nat) := do
  let first ← peek
  if first == .streamEnd then return none
  let isBare := beginsBare first
  if !isBare then startMark
  let isEmpty := !isBare && isLeftEmpty (← peek)
  let n ← if isEmpty then addEmpty else node (← rounds) 1 true false
  noOther
  return some n

end Descent

def document? (s : String) : Except Problem (Option (Nat × Graph)) := do
  let (first, progress) ← Descent.document?.run { scan := ← Scan.ofText s }
  return first.map (·, progress.graph)

end SiteTrial.Yaml
