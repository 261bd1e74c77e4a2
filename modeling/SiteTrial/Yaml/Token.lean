/-!
# YAML tokens

* `Token` : the pieces of a YAML text, with marks where a block begins and ends.
-/

namespace SiteTrial.Yaml

/-- A piece of a YAML text. -/
inductive Token where
  /-- The version that a document claims. -/
  | versionDirective (major : Nat)
  /-- What a handle in tags stands for. -/
  | tagDirective (handle expansion : String)
  /-- A directive of another name. -/
  | otherDirective
  | documentStart
  | documentEnd
  | blockSequenceStart
  | blockMappingStart
  | blockEnd
  | flowSequenceStart
  | flowSequenceEnd
  | flowMappingStart
  | flowMappingEnd
  | blockEntry
  | flowEntry
  | key
  | value
  | alias (name : String)
  | anchor (name : String)
  | tag (handle : Option String) (suffix : String)
  | scalar (text : String) (plain : Bool)
  | streamEnd
deriving Repr, DecidableEq

end SiteTrial.Yaml
