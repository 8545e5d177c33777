import ClassDiagram.Document.Order
import ClassDiagram.Report.Basic
import ClassDiagram.TypeName

/-!
# Reports of the names of types
-/

set_option autoImplicit false

namespace ClassDiagram.Report

/-- The rows of a table. -/
def table (t : Table) : Document := each (fun (name, value) => .list [name, value]) t

/-- A type table, and what it says about names. -/
def typeTable (t : TypeTable) (names imported : Document) : Except Misfit Document := do
  let found ← (← names.asParts).mapM t.resolve
  let imports ← (← imported.asParts).mapM fun name => do return t.importFor (← name.asKey)
  return record [("aliases", table t.aliases), ("imports", table t.imports), ("resolve", .list found),
    ("import_of", each (optional id) imports)]

/-- The names of a package or a type: with a separator of choice, as a path, and with dots. -/
def homeRow (separator : String) (place : Place) : List Document :=
  [key place.key, .text (joinedNames separator place.home), .text (joinedNames "/" place.home),
    .text (joinedNames "." place.home)]

/-- The names of an element, if it is a package or a type. -/
def nameRow? (t : TypeTable) (separator : String) : Element Place Link → Option Document
  | .package p => some (.list (homeRow separator p.place))
  | .classifier c =>
    some (.list (homeRow separator c.place ++ [t.nameOfTarget (some c.target), keyIfAny c.place.holder]))
  | _ => none

/-- The names of the type of an element: bare, as it is written, and as it is written by default. -/
def typeNames (t : TypeTable) (place : Place) (type : Option Link) (many : Bool) :
    Except Misfit (List Document) := do
  return [key place.key, t.nameOfType type, ← t.writtenType type many,
    ← TypeTable.default.writtenType type many]

/-- The names of the type of an element, if it has a type. -/
def typeRow? (t : TypeTable) : Element Place Link → Except Misfit (Option Document)
  | .property p => do return some (.list (← typeNames t p.place p.type p.isList))
  | .operation o => do
    return some (.list ((← typeNames t o.place o.type o.isList) ++ [← t.resultType o]))
  | .parameter r => do return some (.list (← typeNames t r.place r.type r.isList))
  | _ => return none

/-- What a name stands for in a table, and by default. -/
def primitiveRow (t : TypeTable) (name : Document) : Except Misfit Document := do
  return .list [name, ← t.resolve name, ← TypeTable.default.resolve name]

/-- The separator that a value gives: a text, or dots if there is none. -/
def separatorOf : Document → Except Misfit String
  | .text separator => return separator
  | .null => return "."
  | other => throw (.noField other.fullKindName "join")

/-- The names of the elements of a model and of their types. -/
def types (m : Linked) (t : TypeTable) (separator primitives : Document) : Except Misfit Document := do
  let elements := m.model.elements
  let separator ← if elements.isEmpty then pure "." else separatorOf separator
  let typed ← elements.mapM (typeRow? t)
  let primitives ← (← primitives.asParts).mapM (primitiveRow t)
  let sorted ← Sorting.sort (fun a b => a.1.isBelow b.1) t.aliases
  return record [("elements", .list (elements.filterMap (nameRow? t separator))),
    ("typed", .list (typed.filterMap id)), ("primitives", .list primitives), ("table", table sorted)]

end ClassDiagram.Report
