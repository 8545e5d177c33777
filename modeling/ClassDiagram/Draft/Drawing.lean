import ClassDiagram.Diagram.File
import ClassDiagram.Diagram.Vocabulary
import ClassDiagram.Draft.Inquiry

/-!
# The diagrams of a draft

The diagrams of the packages of a draft, drawn line by line.  A name that is no text stops the drawing where
words are joined, and counts as its display elsewhere.
-/

set_option autoImplicit false

namespace ClassDiagram.Draft

open Diagram (Vocabulary Page)

/-! ## Lines of boxes -/

/-- The name of the type of an element; an empty one if it has none. -/
def readTypeName (d : Draft) (h : Handle) (type : Option Pointer) : Inquiry Document := do
  match ← d.readType h type with
  | none => return .text ""
  | some target => .of (d.nameHeld target)

/-- Reads what the line of a property needs. -/
def readProperty (d : Draft) (v : Vocabulary) (p : Property Handle Pointer) : Inquiry Unit := do
  discard (d.readTypeName p.place p.type)
  .of (v.memberFits p.visibility p.isStatic false (d.nameGiven (.property p)))

/-- Reads a parameter, and gives what stands for it between the commas. -/
def readParameter (d : Draft) (r : Parameter Handle Pointer) : Inquiry Document := do
  let type ← d.readTypeName r.place r.type
  return if type.isGiven then .text r.name else d.nameGiven (.parameter r)

/-- Reads what the line of an operation needs. -/
def readOperation (d : Draft) (v : Vocabulary) (o : Operation Handle Pointer) : Inquiry Unit := do
  discard (.of (wordTexts 0 (← o.parameters.mapM d.readParameter)))
  discard (d.readTypeName o.place o.type)
  .of (v.memberFits o.visibility o.isStatic o.isAbstract (.text o.name))

/-- Whether a literal, if it counts, can be a line. -/
def literalLine : Document → Except Misfit Unit
  | .text _ => return
  | other => if other.isGiven then throw (.notAppended "str" other.fullKindName) else return

/-- Reads what the box of a type needs before it is drawn. -/
def readBox (d : Draft) (v : Vocabulary) (t : Classifier Handle Pointer) : Inquiry Unit := do
  t.properties.forM (d.readProperty v)
  t.operations.forM (d.readOperation v)

/-- Draws the box of a type. -/
def drawBox (d : Draft) (v : Vocabulary) (g : GivenAt) (w : Page) (t : TypeForms) : Inquiry Page := do
  d.readBox v t.own
  let literals ← .of (g.literals t.linked)
  match Diagram.boxOf v.style t.quiet with
  | none => return w
  | some b =>
    let w ← .of ((w.box b.header b.lines).mapError (·.error))
    .of (literals.forM literalLine)
    return w

/-! ## Relations -/

/-- Reads a super type for its line. -/
def readSuperName (d : Draft) (target : Option Holder) : Inquiry Unit := do
  if let some h := target then discard (.of (d.nameHeld h))

/-- Reads the super types of a type for their lines. -/
def readSuperLines (d : Draft) (t : Classifier Handle Pointer) : Inquiry Unit := do
  d.readEach t.place.origin .superClasses (t.supersIn .superClasses) d.readSuperName
  d.readEach t.place.origin .superInterfaces (t.supersIn .superInterfaces) d.readSuperName

/-- Reads the types at the ends of an association for its line. -/
def readEdge (d : Draft) (t : Classifier Handle Pointer) : Inquiry Unit :=
  if t.ends.length = 2 then t.ends.forM fun e => discard (d.readTypeName e.place e.type) else return

/-- Reads what the lines of relations need. -/
def readRelations (d : Draft) (types : List (Classifier Handle Pointer)) : Inquiry Unit := do
  types.forM d.readSuperLines
  types.forM d.readEdge

/-- Draws lines after an empty one, if there are any. -/
def drawGroup (v : Vocabulary) (w : Page) (texts : List String) : Inquiry Page := do
  if !texts.isEmpty then .of (v.blankFits w)
  .of ((w.addGroup texts).mapError (·.error))

/-! ## Diagrams -/

/-- The types of a package whose boxes are drawn, in order. -/
def boxedTypes (types : List TypeForms) : List TypeForms :=
  Diagram.boxOrder.flatMap fun kind => types.filter (·.own.kind == kind)

/-- The diagram of a package, if there is one. -/
def diagramOf (d : Draft) (s : Diagram.Settings) (v : Vocabulary) (g : GivenAt)
    (p : Package Handle Pointer) (linked quiet : LinkedPackage) :
    Inquiry (Option Diagram.DiagramFile) :=
  if p.types.isEmpty then return none
  else do
    let types := TypeForms.ofLists p.types linked.types quiet.types
    let w ← (boxedTypes types).foldlM (d.drawBox v g) (Page.start s.indent v.style)
    d.readRelations p.types
    let w ← drawGroup v w (← .of (Diagram.relationLines v.style quiet.types))
    let w ← drawGroup v w (Diagram.hideLines v.style quiet.types)
    discard (.of (d.homeTexts (.element p.place.origin)))
    .of (v.textFits w)
    return some (s.fileOf linked w.text)

end ClassDiagram.Draft
