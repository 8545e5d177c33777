import ClassDiagram.Yaml.Fault

/-!
# The tokens of YAML

Indentation shows in tokens of its own: the start of a block collection and the end of a block.  A text that
cannot be read to its end gives a last token with the fault.
-/

set_option autoImplicit false

namespace ClassDiagram.Yaml

/-- How a tag names its type: in full, or by a handle and a suffix. -/
structure TagName where
  handle : Option String
  suffix : String
  deriving Repr, DecidableEq

/-- A line of instructions before a document. -/
inductive Directive where
  | version (major minor : Nat)
  | tag (handle meaning : String)
  | other
  deriving Repr, DecidableEq

/-- A token. -/
inductive Token where
  | streamEnd
  | directive (d : Directive)
  | documentStart
  | documentEnd
  | blockSequenceStart
  | blockMappingStart
  | blockEnd
  | flowSequenceStart
  | flowSequenceEnd
  | flowMappingStart
  | flowMappingEnd
  | blockEntry
  | flowEntry
  | key
  | value
  | alias (name : String)
  | anchor (name : String)
  | tag (name : TagName)
  | scalar (value : String) (plain : Bool)
  /-- The place from which on there are no tokens. -/
  | broken (fault : Fault)
  deriving Repr, DecidableEq

end ClassDiagram.Yaml
