import ClassDiagram.Draft.Check
import ClassDiagram.Draft.Drawing
import ClassDiagram.Draft.Field
import ClassDiagram.Draft.Sources
import ClassDiagram.Generation

/-!
# Analyses of a draft

An analysis works on the linked form of the draft; the draft remembers the targets that it asked for.
So an answer comes with the draft after it.
-/

set_option autoImplicit false

namespace ClassDiagram.Draft

/-- The linked form, with all targets asked for. -/
def links (d : Draft) : Except Misfit Forms × Draft :=
  d.ask do
    d.model.elements.forM d.readPresent
    return d.forms

/-- The findings about the model. -/
def diagnostics (d : Draft) (reportReferences : Bool) : Except Misfit (List Diagnostic) × Draft :=
  d.ask (d.findings d.forms reportReferences)

/-- The classes on cycles, then the interfaces on cycles, each with the field of the cycle. -/
def cycles (d : Draft) : Except Misfit (List (RefField × CycleNode Key)) × Draft :=
  d.ask do
    d.readInheritance
    let m := d.view
    return m.superClassGraph.cycleNodes.map (.superClasses, ·) ++
      m.superInterfaceGraph.cycleNodes.map (.superInterfaces, ·)

/-- The graph of some holders over a field.  Holders without the field have no references; a field that holds
anything but references is in the way. -/
def superGraph (d : Draft) (holders : List Holder) (field : String) :
    Except Misfit (SuperGraph Key) := do
  (holders.filterMap (d.field? · field)).forM fun held => discard held.asReferences
  let positions := d.positions
  return ⟨holders.map (d.holderKey positions), (RefField.ofWord? field).elim [] d.view.edges⟩

/-- Whether the names of the accessors of a member, and of those that they call, can be formed. -/
def methodsFit (g : GivenAt) (m : AssociationMember) : Except Misfit Unit := do
  if m.isBidirectional then accessorName (g.name m.opposite.place.key m.opposite.name)
  accessorName (g.name m.far.place.key m.name)

/-- The members that associations add to a type. -/
def members (d : Draft) (origin : Origin) : Except Misfit (List AssociationMember) × Draft :=
  d.ask do
    d.readEnds
    let m := d.view
    let found := (m.everyType.find? (·.key == d.key origin)).elim [] m.associationMembers
    .of (found.forM (methodsFit d.givenAt))
    return found

/-- The packages of a draft in their forms. -/
def packageForms (d : Draft) (f : Forms) :
    List (Package Handle Pointer × LinkedPackage × LinkedPackage) :=
  d.model.allPackages.zip (f.linked.model.allPackages.zip f.quiet.model.allPackages)

/-- The Java files of the model, or the first error. -/
def sources (d : Draft) (s : Java.Settings) : Except Misfit (List Java.SourceFile) × Draft :=
  let f := d.forms
  d.ask do
    d.readEnds
    let files ← (d.typeForms f).mapM (d.sourceOf s f)
    return files.filterMap id

/-- The diagrams of the model, or the first error. -/
def diagrams (d : Draft) (s : Diagram.Settings) (v : Diagram.Vocabulary) :
    Except Misfit (List Diagram.DiagramFile) × Draft :=
  let f := d.forms
  d.ask do
    let files ← (d.packageForms f).mapM fun (p, linked, quiet) =>
      d.diagramOf s v f.given p linked quiet
    return files.filterMap id

/-- An inquiry as a batch of one element: what is in its way is reported. -/
def attempt {α : Type} (failure : Misfit → Diagnostic) (q : Inquiry (Option α)) : Inquiry (Batch α) :=
  tryCatch (do return .ofResult failure (.ok (← q))) fun e => return .ofResult failure (.error e)

/-- The Java files of the model, without those that cannot be written. -/
def sourceBatch (d : Draft) (f : Forms) (s : Java.Settings) : Inquiry (Batch Java.SourceFile) := do
  d.readEnds
  let batches ← (d.typeForms f).mapM fun t =>
    attempt (sourceFailure t.linked) (d.sourceOf s f t)
  return .concat batches

/-- The diagrams of the model, without those that cannot be written. -/
def diagramBatch (d : Draft) (f : Forms) (s : Diagram.Settings) (v : Diagram.Vocabulary) :
    Inquiry (Batch Diagram.DiagramFile) := do
  let batches ← (d.packageForms f).mapM fun (p, linked, quiet) =>
    attempt (diagramFailure linked) (d.diagramOf s v f.given p linked quiet)
  return .concat batches

/-- The files of the model, after its findings. -/
def files (d : Draft) (f : Forms) (c : Configuration) (table : TypeTable)
    (diagnostics : List Diagnostic) : Inquiry Generated := do
  let sources ← d.sourceBatch f (c.javaSettings table)
  let diagrams ← d.diagramBatch f (c.diagramSettings .standard) .standard
  return ⟨diagnostics ++ sources.failures ++ diagrams.failures, sources.files, diagrams.files⟩

/-- All that is generated from the model. -/
def generate (d : Draft) (c : Configuration) (tree : FileTree) :
    Except GenerationError Generated × Draft :=
  let f := d.forms
  let (found, checked) := d.ask (d.findings f c.reportsReferences)
  let ready : Except GenerationError (List Diagnostic × TypeTable) := do
    let diagnostics ← c.accept (← found.mapError .writing)
    return (diagnostics, ← (c.typeTable tree).mapError .profile)
  match ready with
  | .error e => (.error e, checked)
  | .ok (diagnostics, table) =>
    let (generated, after) := checked.ask (checked.files f c table diagnostics)
    (generated.mapError .writing, after)

end ClassDiagram.Draft

namespace ClassDiagram

/-- The diagrams of a declared model in given words, or the first error.  Only words that are no texts can be
in the way of a line. -/
def Declared.diagrams (m : Declared) (s : Diagram.Settings) (v : Diagram.Vocabulary) :
    Except Misfit (List Diagram.DiagramFile) :=
  if v.areTexts then s.diagrams m.link else ((Draft.ofDeclared m).diagrams s v).1

end ClassDiagram
