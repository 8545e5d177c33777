import ClassDiagram.Association
import ClassDiagram.Diagnostic

/-!
# The check of a linked model

It never fails: what is wrong is listed, the naming conventions first, then duplicate names, cycles,
associations with a wrong number of ends, classes that should be abstract, members of associations whose
names clash, and last the references without a target.
-/

set_option autoImplicit false

namespace ClassDiagram

namespace Validation

variable {ρ : Type}

/-! ## Naming -/

/-- Findings about the names of a type and of its literals.  The name of an association is a label and
may begin with any letter. -/
def typeNaming (t : Classifier Place ρ) : List Diagnostic :=
  (if t.kind != .association && !t.name.isEmpty && !beginsUpper t.name then
    [.atName .typeNameLowercase t.key t.name] else []) ++
  t.literals.zipIdx.filterMap fun (literal, i) =>
    if !literal.isEmpty && !isAllUpper literal then
      some ⟨.literalNotCapitals, t.key, t.name, "literals", some i⟩
    else none

/-- Findings about the name of a property or an operation. -/
def featureNaming (e : Element Place ρ) : List Diagnostic :=
  let bad := !e.name.isEmpty && !beginsLower e.name
  match e with
  | .property p => if bad then [.atName .propertyNameCapital p.place.key p.name] else []
  | .operation o => if bad then [.atName .operationNameCapital o.place.key o.name] else []
  | _ => []

/-- Findings about naming conventions. -/
def naming (m : Model Place ρ) : List Diagnostic :=
  m.types.flatMap typeNaming ++ m.elements.flatMap featureNaming

/-! ## Duplicates -/

/-- Whether a name occurs more than once among names. -/
def isRepeated (names : List String) (name : String) : Bool := 1 < names.count name

/-- A finding for each item whose name another item has too. -/
def duplicates (label : String) (items : List (String × Key)) : List Diagnostic :=
  let names := items.map Prod.fst
  items.filterMap fun (name, key) =>
    if isRepeated names name then some (.atName (.duplicateName label name) key name) else none

/-- The names and keys of packages. -/
def packageNames (ps : List (Package Place ρ)) : List (String × Key) :=
  ps.map fun p => (p.name, p.place.key)

/-- The names and keys of types. -/
def typeNames (ts : List (Classifier Place ρ)) : List (String × Key) :=
  ts.map fun t => (t.name, t.place.key)

/-- The names and keys of properties. -/
def propertyNames (ps : List (Property Place ρ)) : List (String × Key) :=
  ps.map fun p => (p.name, p.place.key)

/-- The names and keys of operations. -/
def operationNames (os : List (Operation Place ρ)) : List (String × Key) :=
  os.map fun o => (o.name, o.place.key)

/-- A finding for each literal that occurs more than once. -/
def duplicateLiterals (t : Classifier Place ρ) : List Diagnostic :=
  t.literals.zipIdx.filterMap fun (literal, i) =>
    if isRepeated t.literals literal then
      some ⟨.duplicateLiteral literal, t.key, t.name, "literals", some i⟩
    else none

/-- Findings about duplicates inside a type. -/
def typeDuplicates (t : Classifier Place ρ) : List Diagnostic :=
  duplicates "property" (propertyNames t.properties) ++
    duplicates "operation" (operationNames t.operations) ++
    duplicates "property" (propertyNames t.ends) ++ duplicateLiterals t

/-- Findings about duplicates among the packages and types of a package and inside its types. -/
def packageDuplicates (p : Package Place ρ) : List Diagnostic :=
  duplicates "package" (packageNames p.packages) ++ duplicates "type" (typeNames p.types) ++
    p.types.flatMap typeDuplicates

/-- Findings about duplicate names. -/
def duplicateNames (m : Model Place ρ) : List Diagnostic :=
  duplicates "package" (packageNames m.packages) ++ m.allPackages.flatMap packageDuplicates

/-! ## Structure -/

/-- The name of the type with a key. -/
def nameOf (m : Linked) (key : Key) : String :=
  ((m.everyType.find? (·.key == key)).map (·.name)).getD ""

/-- Findings about the cycles of a graph over a field. -/
def cyclesOf (m : Linked) (g : SuperGraph Key) (finding : Finding) (field : RefField) :
    List Diagnostic :=
  g.cycleNodes.map fun c => ⟨finding, c.node, nameOf m c.node, field.word, some c.index⟩

/-- Findings about inheritance. -/
def inheritanceCycles (m : Linked) : List Diagnostic :=
  cyclesOf m m.superClassGraph .classCycle .superClasses ++
    cyclesOf m m.superInterfaceGraph .interfaceCycle .superInterfaces

/-- Findings about the number of ends of associations. -/
def associationArity (m : Linked) : List Diagnostic :=
  m.associations.filterMap fun a =>
    if a.ends.length = 2 then none else some ⟨.associationArity, a.key, a.name, "ends", none⟩

/-- Whether a type is a class with abstract operations that is not abstract. -/
def shouldBeAbstract (t : Classifier Place ρ) : Bool :=
  match t.body with
  | .classBody c => c.declaresAbstract && !c.isAbstract
  | _ => false

/-- Findings about classes with abstract operations. -/
def abstractOperations (m : Linked) : List Diagnostic :=
  m.classes.filterMap fun t =>
    if shouldBeAbstract t then some (.atName .concreteWithAbstractOperations t.key t.name) else none

/-- Findings about the members that associations add to a class. -/
def memberClashes (m : Linked) (t : LinkedType) : List Diagnostic :=
  let declared := t.properties.map (·.name)
  let members := m.associationMembers t
  let names := members.map (·.name)
  members.filterMap fun r =>
    if declared.contains r.name then
      some (.atName (.endClashesWithProperty r.name) r.far.place.key r.name)
    else if isRepeated names r.name then
      some (.atName (.duplicateEnd r.name t.name) r.far.place.key r.name)
    else none

/-- Findings about members of associations. -/
def associationMembers (m : Linked) : List Diagnostic := m.classes.flatMap (memberClashes m)

/-! ## References -/

/-- A finding for each reference of an element without a target. -/
def elementReferences (e : Element Place Link) : List Diagnostic :=
  e.references.filterMap fun (field, i, link) =>
    if link.target.isNone then
      some ⟨.unresolvedReference link.name, e.place.key, e.name, field.word, some i⟩
    else none

/-- Findings about references. -/
def unresolvedReferences (m : Linked) : List Diagnostic := m.model.elements.flatMap elementReferences

/-- What is wrong with the structure of a model, references aside. -/
def structureFindings (m : Linked) : List Diagnostic :=
  naming m.model ++ duplicateNames m.model ++ inheritanceCycles m ++ associationArity m ++
    abstractOperations m ++ associationMembers m

end Validation

/-- The findings about a model; references without a target are reported where asked for. -/
def Linked.diagnostics (m : Linked) (reportReferences : Bool) : List Diagnostic :=
  Validation.structureFindings m ++
    if reportReferences then Validation.unresolvedReferences m else []

end ClassDiagram
