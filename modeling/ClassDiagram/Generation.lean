import ClassDiagram.Diagram.File
import ClassDiagram.Java.Source
import ClassDiagram.Validation

/-!
# Generation from a model

The check of the model, then the Java files, then the diagrams.  What cannot be written is reported and
left out, and all else is written.  A strict configuration refuses a model with errors before anything
is written.
-/

set_option autoImplicit false

namespace ClassDiagram

/-- How files are generated from a model.  The names of primitive types and the list of profiles are kept as
they are given, and looked at when they are used. -/
structure Configuration where
  project : String := "GeneratedModel"
  diagramName : String := "diagram"
  indent : Indent := .standard
  primitives : Document := .map standardPrimitives
  profiles : Document := .null
  isStrict : Bool := false
  reportsReferences : Bool := true
  writesEnumerations : Bool := true
  deriving Repr

/-- The configuration in which nothing is set. -/
def Configuration.standard : Configuration := {}

/-- Why nothing is generated. -/
inductive GenerationError where
  | profile (error : ProfileError)
  | validationFailed (diagnostics : List Diagnostic)
  | writing (error : Misfit)
  deriving Repr

/-- The number of errors among diagnostics. -/
def errorCount (diagnostics : List Diagnostic) : Nat := diagnostics.countP (·.isError)

/-- The wording of an error. -/
def GenerationError.message : GenerationError → String
  | profile error => error.message
  | validationFailed diagnostics => s!"Model has {errorCount diagnostics} validation errors"
  | writing error => error.message

namespace Configuration

/-- Sets what a field of a document names. -/
def setField (c : Configuration) (field : String) (value : Document) : Except Misfit Configuration := do
  match field with
  | "project_name" => return { c with project := ← lineText value }
  | "diagram_base_name" => return { c with diagramName := ← lineText value }
  | "indent" => return { c with indent := .ofDocument value }
  | "primitive_types" => return { c with primitives := value }
  | "types_profiles" => return { c with profiles := value }
  | "strict_validation" => return { c with isStrict := value.isGiven }
  | "report_unresolved_references" => return { c with reportsReferences := value.isGiven }
  | "emit_enumerations" => return { c with writesEnumerations := value.isGiven }
  | other => throw (.unexpected "GeneratorConfig.__init__" other)

/-- The configuration that the fields of a document give. -/
def ofFields (fields : List (Document × Document)) : Except Misfit Configuration :=
  fields.foldlM (fun c (field, value) => c.setField (field.display?.getD "") value) standard

/-- The type table of a configuration: its own names under its profiles. -/
def typeTable (c : Configuration) (files : FileTree) : Except ProfileError TypeTable := do
  let own : TypeTable := ⟨← orProfileError c.primitives.asEntries, []⟩
  if c.profiles.isGiven then return own.update (← TypeTable.ofFiles files c.profiles)
  else return own

/-- How Java is generated with a type table. -/
def javaSettings (c : Configuration) (table : TypeTable) : Java.Settings :=
  ⟨c.indent, table, c.writesEnumerations⟩

/-- How diagrams are generated. -/
def diagramSettings (c : Configuration) (style : Diagram.Style) : Diagram.Settings :=
  ⟨c.diagramName, c.indent, style⟩

/-- What a model passes on with its findings; a strict configuration refuses one with errors. -/
def accept (c : Configuration) (diagnostics : List Diagnostic) :
    Except GenerationError (List Diagnostic) :=
  if c.isStrict && diagnostics.any (·.isError) then throw (.validationFailed diagnostics)
  else return diagnostics

/-- The check of a model. -/
def check (c : Configuration) (m : Linked) : Except GenerationError (List Diagnostic) :=
  c.accept (m.diagnostics c.reportsReferences)

end Configuration

/-- What is written for elements in turn, and a diagnostic for each that cannot be written. -/
structure Batch (α : Type) where
  files : List α
  failures : List Diagnostic
  deriving Repr

namespace Batch

variable {α : Type}

/-- The batch of one element. -/
def ofResult (failure : Misfit → Diagnostic) : Except Misfit (Option α) → Batch α
  | .ok (some file) => ⟨[file], []⟩
  | .ok none => ⟨[], []⟩
  | .error e => ⟨[], [failure e]⟩

/-- One batch after another. -/
def append (a b : Batch α) : Batch α := ⟨a.files ++ b.files, a.failures ++ b.failures⟩

/-- The batches of a list, one after another. -/
def concat : List (Batch α) → Batch α
  | [] => ⟨[], []⟩
  | b :: rest => b.append (concat rest)

end Batch

/-- The diagnostic for a type whose file cannot be written. -/
def sourceFailure (t : LinkedType) (e : Misfit) : Diagnostic := .atName (.sourceFailed e) t.key t.name

/-- The diagnostic for a package whose diagram cannot be written. -/
def diagramFailure (p : LinkedPackage) (e : Misfit) : Diagnostic :=
  .atName (.diagramFailed e) p.place.key p.name

/-- The Java files of a model, without those that cannot be written. -/
def Java.Settings.batch (s : Java.Settings) (m : Linked) : Batch Java.SourceFile :=
  Batch.concat (m.model.types.map fun t => Batch.ofResult (sourceFailure t) (s.source m t))

/-- The diagrams of a model, without those that cannot be written. -/
def Diagram.Settings.batch (s : Diagram.Settings) (m : Linked) : Batch Diagram.DiagramFile :=
  Batch.concat (m.model.allPackages.map fun p => Batch.ofResult (diagramFailure p) (s.diagram p))

/-- What is generated from a model. -/
structure Generated where
  diagnostics : List Diagnostic
  sources : List Java.SourceFile
  diagrams : List Diagram.DiagramFile
  deriving Repr

namespace Generated

/-- The errors among the diagnostics. -/
def errors (r : Generated) : List Diagnostic := r.diagnostics.filter (·.isError)

/-- The warnings among the diagnostics. -/
def warnings (r : Generated) : List Diagnostic := r.diagnostics.filter (!·.isError)

/-- Whether there is an error. -/
def hasErrors (r : Generated) : Bool := r.diagnostics.any (·.isError)

end Generated

/-- All that is generated from a model under a configuration, given the files of profiles. -/
def Linked.generate (m : Linked) (c : Configuration) (files : FileTree) :
    Except GenerationError Generated := do
  let diagnostics ← c.check m
  let table ← (c.typeTable files).mapError .profile
  let sources := (c.javaSettings table).batch m
  let diagrams := (c.diagramSettings .standard).batch m
  return ⟨diagnostics ++ sources.failures ++ diagrams.failures, sources.files, diagrams.files⟩

end ClassDiagram
