import ClassDiagram.Model.Basic

/-!
# The words and signs of a diagram

The words and signs of a class diagram in PlantUML.  All of them can be replaced.
-/

set_option autoImplicit false

namespace ClassDiagram.Diagram

/-- The words and signs of a diagram. -/
structure Style where
  start : String := "@startuml"
  finish : String := "@enduml"
  primitiveStereotype : String := "<<primitive>>"
  datatypeStereotype : String := "<<datatype>>"
  abstractModifier : String := "\x7babstract\x7d"
  staticModifier : String := "\x7bstatic\x7d"
  line : String := "--"
  generalizationArrow : String := "<|--"
  realizationArrow : String := "<|.."
  labelDirection : String := ">"
  unbounded : String := "*"
  defaultVisibility : Visibility := .packageAccess
  deriving Repr, DecidableEq

/-- The words and signs unless others are given. -/
def Style.standard : Style := {}

/-- The sign of a visibility. -/
def visibilitySign : Visibility → String
  | .publicAccess => "+"
  | .protectedAccess => "#"
  | .privateAccess => "-"
  | .packageAccess => "~"

/-- The sign of an aggregation at an end of an edge. -/
def aggregationSign : Aggregation → String
  | .plain => ""
  | .shared => "o"
  | .composite => "*"

namespace Style

/-- A bound, if it has few enough digits; the absence of one has a sign of its own. -/
def bound? (s : Style) (b : Bound) : Option String :=
  if b.same .unbounded then some s.unbounded else b.text?

/-- Two bounds with dots between them. -/
def range? (s : Style) (lower upper : Bound) : Option String := do
  let low ← s.bound? lower
  let high ← s.bound? upper
  return low ++ ".." ++ high

/-- The multiplicity at an end of an edge: one bound when both are equal. -/
def multiplicity? (s : Style) (lower upper : Bound) : Option String :=
  if lower.same upper then s.bound? lower else s.range? lower upper

/-- The bounds that are shown behind a member. -/
def shownCardinalities : List (Int × Int) := [(0, 1), (0, -1), (1, -1)]

/-- The multiplicity behind a member; nothing for bounds that are not shown. -/
def cardinality (s : Style) (lower upper : Bound) : String :=
  if shownCardinalities.any fun (low, high) => lower.equals low && upper.equals high then
    ((s.range? lower upper).map fun range => "[" ++ range ++ "]").getD ""
  else ""

/-- The line of a member. -/
def member (s : Style) (name type : String) (visibility : Option Visibility)
    (isStatic isAbstract : Bool) (cardinality : String) : String :=
  let words := [visibilitySign (visibility.getD s.defaultVisibility)] ++
    (if isAbstract then [s.abstractModifier] else []) ++
    (if isStatic then [s.staticModifier] else []) ++ [name]
  " ".intercalate words ++ (if type.isEmpty then "" else " : " ++ type) ++
    (if cardinality.isEmpty then "" else " " ++ cardinality)

/-- The edge between two ends with their aggregations. -/
def edgeSign (s : Style) (left right : Aggregation) : String :=
  aggregationSign left ++ s.line ++ aggregationSign right

/-- The line of an association. -/
def association (s : Style) (source sourceBounds edge targetBounds target label : String) : String :=
  source ++ " \"" ++ sourceBounds ++ "\" " ++ edge ++ " \"" ++ targetBounds ++ "\" " ++ target ++
    (if label.isEmpty then "" else " : " ++ label ++ " " ++ s.labelDirection)

/-- The line of a super class, or of a super interface of an interface. -/
def generalization (s : Style) (general specific : String) : String :=
  general ++ " " ++ s.generalizationArrow ++ " " ++ specific

/-- The line of an interface that a class implements. -/
def realization (s : Style) (contract implementer : String) : String :=
  contract ++ " " ++ s.realizationArrow ++ " " ++ implementer

end Style

end ClassDiagram.Diagram
