import ClassDiagram.Document.Misfit
import ClassDiagram.Linking

/-!
# Diagnostics

What is found wrong with a model, or goes wrong while something is written for it, each anchored at an
element.
-/

set_option autoImplicit false

namespace ClassDiagram

/-- How grave a finding is. -/
inductive Severity where
  | error
  | warning
  deriving Repr, DecidableEq

/-- The word for a severity. -/
def Severity.word : Severity → String
  | error => "error"
  | warning => "warning"

/-- What can be found. -/
inductive Finding where
  | typeNameLowercase
  | literalNotCapitals
  | propertyNameCapital
  | operationNameCapital
  | duplicateName (label name : String)
  | duplicateLiteral (name : String)
  | classCycle
  | interfaceCycle
  | associationArity
  | concreteWithAbstractOperations
  | endClashesWithProperty (name : String)
  | duplicateEnd (name owner : String)
  | unresolvedReference (name : String)
  | sourceFailed (reason : Misfit)
  | diagramFailed (reason : Misfit)
  deriving Repr, DecidableEq

/-- The wording of a finding. -/
def Finding.message : Finding → String
  | typeNameLowercase => "Type name should start with a capital."
  | literalNotCapitals => "Enumeration literal should consist of capitals."
  | propertyNameCapital => "Property name should start with lowercase."
  | operationNameCapital => "Operation name should start with lowercase."
  | duplicateName label name => s!"Duplicate {label} name '{name}'."
  | duplicateLiteral name => s!"Duplicate enumeration literal name '{name}'."
  | classCycle => "Cycle in class inheritance"
  | interfaceCycle => "Cycle in interface inheritance"
  | associationArity => "Association must have exactly two ends."
  | concreteWithAbstractOperations => "Class with abstract operations must be declared abstract."
  | endClashesWithProperty name => s!"Association end '{name}' clashes with property '{name}'."
  | duplicateEnd name owner => s!"Duplicate association end name '{name}' for class '{owner}'."
  | unresolvedReference name => s!"Could not resolve reference to '{name}'."
  | sourceFailed reason => "Code generation failed: " ++ reason.message
  | diagramFailed reason => "Diagram generation failed: " ++ reason.message

/-- The severity of a finding: conventions and references are warnings. -/
def Finding.severity : Finding → Severity
  | typeNameLowercase => .warning
  | literalNotCapitals => .warning
  | propertyNameCapital => .warning
  | operationNameCapital => .warning
  | unresolvedReference _ => .warning
  | _ => .error

/-- A finding at an element: the key and the name of the element, the field of it and, in a list, the
position that the finding is about. -/
structure Diagnostic where
  finding : Finding
  target : Key
  targetName : String
  field : String
  index : Option Nat
  deriving Repr, DecidableEq

namespace Diagnostic

/-- The severity of a diagnostic. -/
def severity (d : Diagnostic) : Severity := d.finding.severity

/-- The wording of a diagnostic. -/
def message (d : Diagnostic) : String := d.finding.message

/-- Whether a diagnostic is an error. -/
def isError (d : Diagnostic) : Bool := d.severity == .error

/-- The line for a diagnostic. -/
def text (d : Diagnostic) : String :=
  let position := match d.index with
    | none => ""
    | some i => s!"[{i}]"
  s!"{d.severity.word}: {d.message} ({d.targetName}.{d.field}{position})"

/-- A finding about the name of an element. -/
def atName (finding : Finding) (target : Key) (name : String) : Diagnostic :=
  ⟨finding, target, name, "name", none⟩

end Diagnostic

end ClassDiagram
