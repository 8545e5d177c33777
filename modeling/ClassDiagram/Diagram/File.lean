import ClassDiagram.Diagram.Page
import ClassDiagram.Linking
import ClassDiagram.TypeName

/-!
# The diagram of a package

A box for each of its types, grouped by kind, then a line for each super type and each association, then
the lines that hide what primitive types and data types do not show.
-/

set_option autoImplicit false

namespace ClassDiagram.Diagram

/-- The name of the type of an element, as the model has it. -/
def typeText (type : Option Link) : String := ((type.bind (·.target)).map (·.name)).getD ""

/-- A box: its header and the lines in it. -/
structure Box where
  header : String
  lines : List String
  deriving Repr, DecidableEq

/-- The line of a property. -/
def propertyText (s : Style) (p : LinkedProperty) : String :=
  s.member p.name (typeText p.type) p.visibility p.isStatic false (s.cardinality p.lower p.upper)

/-- A parameter with its type, if it is known. -/
def parameterText (r : Parameter Place Link) : String :=
  let type := typeText r.type
  if type.isEmpty then r.name else r.name ++ " : " ++ type

/-- The line of an operation. -/
def operationText (s : Style) (o : LinkedOperation) : String :=
  let name := o.name ++ "(" ++ ", ".intercalate (o.parameters.map parameterText) ++ ")"
  let cardinality := if o.type.isSome then s.cardinality o.lower o.upper else ""
  s.member name (typeText o.type) o.visibility o.isStatic o.isAbstract cardinality

/-- The box of a type; associations have none. -/
def boxOf (s : Style) (t : LinkedType) : Option Box :=
  match t.body with
  | .primitive => some ⟨"class " ++ t.name ++ " " ++ s.primitiveStereotype, []⟩
  | .datatype properties =>
    some ⟨"class " ++ t.name ++ " " ++ s.datatypeStereotype, properties.map (propertyText s)⟩
  | .classBody c =>
    some ⟨(if c.isAbstract then "abstract class " else "class ") ++ t.name,
      c.properties.map (propertyText s) ++ c.operations.map (operationText s)⟩
  | .enumeration literals => some ⟨"enum " ++ t.name, literals⟩
  | .interface c =>
    some ⟨"interface " ++ t.name,
      c.properties.map (propertyText s) ++ c.operations.map (operationText s)⟩
  | .association _ => none

/-- The order in which the boxes of the kinds come. -/
def boxOrder : List Kind := [.primitive, .datatype, .classKind, .enumeration, .interface]

/-- The types of a kind. -/
def ofKind (types : List LinkedType) (kind : Kind) : List LinkedType := types.filter (·.kind == kind)

/-- The boxes of types, in order. -/
def boxes (s : Style) (types : List LinkedType) : List Box :=
  boxOrder.flatMap fun kind => (ofKind types kind).filterMap (boxOf s)

/-- The lines of the super types of a type. -/
def superLines (s : Style) (t : LinkedType) : List String :=
  match t.body with
  | .classBody c =>
    (knownNames c.superClasses).map (s.generalization · t.name) ++
      (knownNames c.superInterfaces).map (s.realization · t.name)
  | .interface c => (knownNames c.superInterfaces).map (s.generalization · t.name)
  | _ => []

/-- The multiplicity at an end of an association. -/
def endMultiplicity (s : Style) (e : LinkedProperty) : Except Misfit String :=
  match s.multiplicity? e.lower e.upper with
  | some text => return text
  | none => throw .unwritten

/-- The line of an association with two ends at known types. -/
def edgeText (s : Style) (t : LinkedType) : Except Misfit (Option String) :=
  match t.ends with
  | [first, second] =>
    let source := typeText first.type
    let target := typeText second.type
    if source.isEmpty || target.isEmpty then return none
    else do
      let atSource ← endMultiplicity s first
      let atTarget ← endMultiplicity s second
      return some (s.association source atSource
        (s.edgeSign second.aggregation first.aggregation) atTarget target t.name)
  | _ => return none

/-- The lines of relations: super types first, then associations. -/
def relationLines (s : Style) (types : List LinkedType) : Except Misfit (List String) := do
  let edges ← types.mapM (edgeText s)
  return types.flatMap (superLines s) ++ edges.filterMap id

/-- The lines that hide parts of the boxes of primitive types and of data types. -/
def hideLines (s : Style) (types : List LinkedType) : List String :=
  (if (ofKind types .primitive).isEmpty then []
    else ["hide " ++ s.primitiveStereotype ++ " members", "hide " ++ s.primitiveStereotype ++ " circle"]) ++
  (if (ofKind types .datatype).isEmpty then [] else ["hide " ++ s.datatypeStereotype ++ " circle"])

/-- Lines after an empty one, if there are any. -/
def Page.addGroup (w : Page) (texts : List String) : Written :=
  if texts.isEmpty then return w else w.blank.addLines texts

/-- A page after the contents of a diagram of types. -/
def writeTypes (w : Page) (types : List LinkedType) : Written := do
  let w ← (boxes w.style types).foldlM (fun w b => w.box b.header b.lines) w
  let relations ← w.expect (relationLines w.style types)
  let w ← w.addGroup relations
  w.addGroup (hideLines w.style types)

/-- A diagram: its name, its package, its text and the package as an element. -/
structure DiagramFile where
  name : String
  package : String
  text : String
  element : Key
  deriving Repr, DecidableEq

/-- The name of the file of a diagram. -/
def nameOfFile (name : String) : String := name ++ ".puml"

/-- How diagrams are generated: the beginning of their names, the indentation and the words and signs. -/
structure Settings where
  baseName : String
  indent : Indent
  style : Style

/-- The file of the diagram of a package with a text. -/
def Settings.fileOf (s : Settings) (p : LinkedPackage) (text : String) : DiagramFile :=
  let package := joinedNames "." p.place.home
  ⟨s.baseName ++ "_" ++ package, package, text, p.place.key⟩

/-- The diagram of a package; a package without types has none. -/
def Settings.diagram (s : Settings) (p : LinkedPackage) : Except Misfit (Option DiagramFile) :=
  if p.types.isEmpty then return none
  else do
    let w ← (writeTypes (Page.start s.indent s.style) p.types).mapError (·.error)
    return some (s.fileOf p w.text)

/-- The diagrams of all packages of a model, or the first error. -/
def Settings.diagrams (s : Settings) (m : Linked) : Except Misfit (List DiagramFile) := do
  let files ← m.model.allPackages.mapM s.diagram
  return files.filterMap id

end ClassDiagram.Diagram
