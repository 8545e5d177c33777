import ClassDiagram.Yaml.Tag

/-!
# The nodes of a YAML text

A YAML text writes a graph: an alias is the node that its anchor marks, and a collection may be reached from
inside itself.  Nodes are therefore numbered, and collections hold the numbers of their parts.
-/

set_option autoImplicit false

namespace ClassDiagram.Yaml

/-- The number of a node in its graph. -/
abbrev NodeId := Nat

/-- What a node holds: a text, a list of nodes or entries of two nodes each. -/
inductive Content where
  | scalar (text : String)
  | sequence (items : List NodeId)
  | mapping (entries : List (NodeId × NodeId))
  deriving Repr, DecidableEq

/-- A node: the type it is tagged with and what it holds. -/
structure Node where
  tag : Tag
  content : Content
  deriving Repr, DecidableEq

/-- The node of an empty text. -/
def Node.empty : Node := ⟨.null, .scalar ""⟩

/-- The nodes of a text, by their numbers. -/
structure Graph where
  nodes : Array Node
  deriving Repr

namespace Graph

/-- The graph without nodes. -/
def empty : Graph := ⟨#[]⟩

/-- The node with a number. -/
def node (g : Graph) (id : NodeId) : Node := g.nodes.getD id .empty

/-- The type of a node. -/
def tag (g : Graph) (id : NodeId) : Tag := (g.node id).tag

/-- What a node holds. -/
def content (g : Graph) (id : NodeId) : Content := (g.node id).content

/-- Adds a node and gives its number. -/
def add (g : Graph) (n : Node) : NodeId × Graph := (g.nodes.size, ⟨g.nodes.push n⟩)

/-- Sets what a node holds. -/
def setContent (g : Graph) (id : NodeId) (content : Content) : Graph :=
  ⟨g.nodes.setIfInBounds id { g.node id with content }⟩

/-- Sets the type of a node. -/
def setTag (g : Graph) (id : NodeId) (tag : Tag) : Graph :=
  ⟨g.nodes.setIfInBounds id { g.node id with tag }⟩

/-- The entries of a mapping. -/
def entries? (g : Graph) (id : NodeId) : Option (List (NodeId × NodeId)) :=
  match g.content id with
  | .mapping entries => some entries
  | _ => none

/-- The number of all entries of all mappings. -/
def entryCount (g : Graph) : Nat :=
  g.nodes.foldl (fun n node => match node.content with
    | .mapping entries => n + entries.length
    | _ => n) 0

end Graph

end ClassDiagram.Yaml
