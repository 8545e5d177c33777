import ClassDiagram.Generation
import ClassDiagram.Report.Basic

/-!
# Reports of findings and generated files
-/

set_option autoImplicit false

namespace ClassDiagram.Report

/-- A finding. -/
def diagnostic (d : Diagnostic) : Document :=
  .list [.text d.severity.word, .text d.message, key d.target, .text d.field, optional count d.index,
    .text d.text]

/-- Findings. -/
def diagnostics (ds : List Diagnostic) : Document := each diagnostic ds

/-- A finding in short. -/
def refusal (d : Diagnostic) : Document := .list [.text d.severity.word, .text d.message]

/-- A Java file. -/
def source (f : Java.SourceFile) : Document :=
  record [("name", .text f.name), ("package", .text f.package), ("path", .text f.path),
    ("file", .text (Java.nameOfFile f.name)), ("text", .text f.text), ("element", key f.element)]

/-- Java files. -/
def sources (fs : List Java.SourceFile) : Document := each source fs

/-- A diagram. -/
def diagram (f : Diagram.DiagramFile) : Document :=
  record [("name", .text f.name), ("package", .text f.package),
    ("file", .text (Diagram.nameOfFile f.name)), ("text", .text f.text), ("element", key f.element)]

/-- Diagrams. -/
def diagrams (fs : List Diagram.DiagramFile) : Document := each diagram fs

/-- The findings and files of a generation. -/
def generated (r : Generated) : List (String × Document) :=
  [("diagnostics", diagnostics r.diagnostics), ("sources", sources r.sources),
    ("diagrams", diagrams r.diagrams)]

/-- A generation with the numbers of its findings. -/
def generation (r : Generated) : Document :=
  record (generated r ++ [("errors", count r.errors.length), ("warnings", count r.warnings.length),
    ("has_errors", .bool r.hasErrors)])

end ClassDiagram.Report
