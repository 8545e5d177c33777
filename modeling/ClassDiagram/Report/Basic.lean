import ClassDiagram.Linking

/-!
# Reports

What the library finds and makes, told as documents.  This module has the forms that all reports share:
records, values that may be absent, and the positions of elements.
-/

set_option autoImplicit false

namespace ClassDiagram.Report

/-- A mapping with texts as keys. -/
def record (fields : List (String × Document)) : Document :=
  .map (fields.map fun (name, value) => (.text name, value))

/-- Several values, each told in its own way. -/
def each {α : Type} (tell : α → Document) (items : List α) : Document := .list (items.map tell)

/-- A value that may be absent. -/
def optional {α : Type} (tell : α → Document) : Option α → Document
  | none => .null
  | some a => tell a

/-- A natural number. -/
def count (n : Nat) : Document := .int n

/-- A step of a position: a letter for the list and the number in it. -/
def stepText : Step → String
  | .package i => s!"P{i}"
  | .type i => s!"T{i}"
  | .property i => s!"A{i}"
  | .operation i => s!"O{i}"
  | .parameter i => s!"R{i}"
  | .associationEnd i => s!"E{i}"

/-- A position: its steps with slashes between them, or a letter for the model. -/
def pathText (path : Path) : String :=
  if path.isEmpty then "M" else "/".intercalate (path.map stepText)

/-- An element: its position, or its name with a mark when it is outside the tree. -/
def key : Key → Document
  | .inside path => .text (pathText path)
  | .outside _ name => .text ("!" ++ name)

/-- An element that may be absent. -/
def keyIfAny (k : Option Key) : Document := optional key k

end ClassDiagram.Report
