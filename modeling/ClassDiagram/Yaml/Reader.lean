import ClassDiagram.Yaml.Node.Reading
import ClassDiagram.Yaml.Token.Lexer
import ClassDiagram.Yaml.Unfolding

/-!
# YAML text as a document

Reading YAML text as a document: its tokens, the graph of its nodes, the collections that they stand for and
the document of its root.
-/

set_option autoImplicit false

namespace ClassDiagram.Yaml

/-- The document of the root of a graph. -/
def Graph.document (g : Graph) (root : NodeId) : Except Fault Document := do
  let (part, a) ← Assembly.ofGraph g root
  return documentOf a.collections part

/-- The document that tokens write; tokens without one write nothing. -/
def ofTokens (tokens : Array Token) : Except Fault Document := do
  let (root, graph) ← Graph.ofTokens tokens.toList
  match root with
  | none => return .null
  | some root => graph.document root

/-- The document that a text writes. -/
def read (text : String) : Except Fault Document := ofTokens (tokens text.toList)

/-- The document that a text writes which is read piece by piece. -/
def readStream (text : String) : Except Fault Document := ofTokens (streamTokens text.toList)

end ClassDiagram.Yaml
