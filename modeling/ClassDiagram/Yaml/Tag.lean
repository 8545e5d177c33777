/-!
# The types of YAML nodes

The types that a node can be tagged with, and their names.
-/

set_option autoImplicit false

namespace ClassDiagram.Yaml

/-- The types that a node can be tagged with. -/
inductive Tag where
  | null
  | bool
  | int
  | float
  | timestamp
  | binary
  | str
  | seq
  | map
  | set
  | omap
  | pairs
  | merge
  | value
  | other (name : String)
  deriving Repr, DecidableEq

/-- The beginning that the names of the types of YAML share. -/
def standardNames : String := "tag:yaml.org,2002:"

/-- The types with a name of their own. -/
def namedTags : List (String × Tag) :=
  [("null", .null), ("bool", .bool), ("int", .int), ("float", .float), ("timestamp", .timestamp),
    ("binary", .binary), ("str", .str), ("seq", .seq), ("map", .map), ("set", .set),
    ("omap", .omap), ("pairs", .pairs), ("merge", .merge), ("value", .value)]

/-- The type with a full name. -/
def Tag.ofName (name : String) : Tag :=
  match namedTags.find? fun (short, _) => standardNames ++ short == name with
  | some (_, tag) => tag
  | none => .other name

/-- The type of the indicators that stand alone; no value has it. -/
def Tag.indicator : Tag := .other (standardNames ++ "yaml")

end ClassDiagram.Yaml
