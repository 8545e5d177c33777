import ClassDiagram.Layout
import ClassDiagram.TypeProfile

/-!
# The names of types in generated code

Qualified names of elements, and the names that typed elements are written with, as a list when they
hold many values.  A type table may give a primitive type a name that is no text; such a name is passed on
as it is, and its text stands in the name of a list.
-/

set_option autoImplicit false

namespace ClassDiagram

/-- The names of the packages around an element, joined by a separator. -/
def joinedNames (separator : String) (home : List String) : String := separator.intercalate home

/-- The names of the types that references lead to, where they are known. -/
def knownNames (links : List Link) : List String := links.filterMap fun l => l.target.map (·.name)

/-- The type of a list. -/
def listType (element : Document) : Except Misfit String := do
  return "List<" ++ (← lineText element) ++ ">"

/-- What an operation without a type returns. -/
def voidType : String := "void"

namespace TypeTable

/-- The name that a type is written with; empty when there is none. -/
def nameOfTarget (r : TypeTable) : Option Target → Document
  | none => .text ""
  | some t => if t.kind == .primitive then r.nameFor (.text t.name) else .text t.name

/-- The name of the type that a reference leads to. -/
def nameOfType (r : TypeTable) (type : Option Link) : Document := r.nameOfTarget (type.bind (·.target))

/-- The name of the type of an element, as a list when it holds many values; empty when the type is
unknown or its name does not count. -/
def writtenType (r : TypeTable) (type : Option Link) (many : Bool) : Except Misfit Document :=
  let base := r.nameOfType type
  if !base.isGiven then return .text ""
  else if many then (listType base).map .text
  else return base

/-- The name of the type of a property. -/
def propertyType (r : TypeTable) (p : LinkedProperty) : Except Misfit Document :=
  r.writtenType p.type p.isList

/-- The name of the type of a parameter. -/
def parameterType (r : TypeTable) (p : Parameter Place Link) : Except Misfit Document :=
  r.writtenType p.type p.isList

/-- The name of the type that an operation returns. -/
def resultType (r : TypeTable) (o : LinkedOperation) : Except Misfit Document :=
  if o.type.isNone then return .text voidType else r.writtenType o.type o.isList

end TypeTable

end ClassDiagram
