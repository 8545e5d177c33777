import ClassDiagram.Draft.Basic

/-!
# Routes through a draft

An element is reached from the model through lists of elements and the positions in them.  A path writes
such a route as segments between slashes.  A route ends early where an element does not have the list or the
list is too short.
-/

set_option autoImplicit false

namespace ClassDiagram.Draft

/-! ## Lists of elements -/

/-- The lists that hold elements. -/
inductive Branch where
  | packages
  | types
  | properties
  | operations
  | parameters
  | ends
  deriving Repr, DecidableEq

/-- The lists in the order of their definition. -/
def Branch.all : List Branch := [.packages, .types, .properties, .operations, .parameters, .ends]

/-- The word for a list. -/
def Branch.word : Branch → String
  | packages => "packages"
  | types => "types"
  | properties => "properties"
  | operations => "operations"
  | parameters => "parameters"
  | ends => "ends"

/-- The list with a word. -/
def Branch.ofWord? (word : String) : Option Branch := Branch.all.find? (·.word == word)

/-- The letter that a list is called by in paths. -/
def Branch.letter : Branch → Char
  | packages => 'P'
  | types => 'T'
  | properties => 'A'
  | operations => 'O'
  | parameters => 'R'
  | ends => 'E'

/-- The list that a segment of a path is about. -/
def Branch.ofSegment (segment : String) : Except Misfit Branch :=
  match segment.toList with
  | [] => throw .noCharacter
  | letter :: _ =>
    match Branch.all.find? (·.letter == letter) with
    | some branch => return branch
    | none => throw (.noEntry letter.toString)

/-- The origins of elements. -/
def originsOf {α : Type} (handle : α → Handle) (items : List α) : List Origin :=
  items.map fun item => (handle item).origin

/-- The list of a type, if its kind has it. -/
def Branch.ofClassifier? (t : Classifier Handle Pointer) : Branch → Option (List Origin)
  | properties =>
    if [Kind.classKind, .interface, .datatype].contains t.kind then
      some (originsOf Property.place t.properties)
    else none
  | operations =>
    if [Kind.classKind, .interface].contains t.kind then
      some (originsOf Operation.place t.operations)
    else none
  | ends =>
    if t.kind == .association then some (originsOf Property.place t.ends) else none
  | _ => none

/-- The list of an element, if its sort has it. -/
def Branch.ofElement? (e : Element Handle Pointer) (branch : Branch) : Option (List Origin) :=
  match e, branch with
  | .package p, packages => some (originsOf Package.place p.packages)
  | .package p, types => some (originsOf Classifier.place p.types)
  | .classifier t, _ => branch.ofClassifier? t
  | .operation o, parameters => some (originsOf Parameter.place o.parameters)
  | _, _ => none

/-! ## Sorts -/

/-- The name of a kind of types, as messages call it. -/
def kindSort : Kind → String
  | .classKind => "UmlClass"
  | .interface => "UmlInterface"
  | .datatype => "UmlDataType"
  | .primitive => "UmlPrimitiveType"
  | .enumeration => "UmlEnumeration"
  | .association => "UmlAssociation"

/-- The name of the sort of an element, as messages call it. -/
def elementSort : Element Handle Pointer → String
  | .package _ => "UmlPackage"
  | .classifier t => kindSort t.kind
  | .property _ => "UmlProperty"
  | .operation _ => "UmlOperation"
  | .parameter _ => "UmlParameter"

/-- The name of the sort of a holder, as messages call it. -/
def holderSort (d : Draft) : Holder → String
  | .model => "UmlModel"
  | .element origin => ((d.element? origin).map elementSort).getD ""

/-! ## Routes -/

/-- A list of a holder, if it has the list. -/
def branchOf? (d : Draft) (holder : Holder) (branch : Branch) : Option (List Origin) :=
  match holder with
  | .model => if branch = .packages then some (originsOf Package.place d.model.packages) else none
  | .element origin => (d.element? origin).bind branch.ofElement?

/-- A list of a holder, which must have it. -/
def branchOf (d : Draft) (holder : Holder) (branch : Branch) : Except Misfit (List Origin) :=
  match d.branchOf? holder branch with
  | some origins => return origins
  | none => throw (.noField (d.holderSort holder) branch.word)

/-- The place of an index in a list; an index below zero counts from the end. -/
def positionIn? (length : Nat) (index : Int) : Option Nat :=
  let position := if index < 0 then index + length else index
  if 0 ≤ position && position < length then some position.toNat else none

/-- Whether a number is too large for a place in any list. -/
def isHuge (index : Int) : Bool := index < -(Nat.pow 2 63) || Nat.pow 2 63 ≤ index

/-- The place of an index in a list of a length, which must have it. -/
def placeAt (length : Nat) (index : Int) (absent : Misfit) : Except Misfit Nat :=
  match positionIn? length index with
  | some position => return position
  | none => throw (if isHuge index then .hugePlace else absent)

/-- The item at an index of a list, which may count from the end. -/
def itemAt {α : Type} (items : List α) (index : Int) : Except Misfit α := do
  match items[← placeAt items.length index .noItem]? with
  | some item => return item
  | none => throw .noItem

/-- The index that a segment of a path gives behind its letter. -/
def indexOfSegment (segment : String) : Except Misfit Int :=
  let digits := segment.toList.tail
  (Text.groupedIntegerOf digits).mapError (.ofIntegerFault (String.ofList digits))

/-- What a segment of a path leads to from a holder: a letter for a list and an index in it. -/
def enter (d : Draft) (holder : Holder) (segment : String) : Except Misfit Holder := do
  let branch ← Branch.ofSegment segment
  let origins ← d.branchOf holder branch
  return .element (← itemAt origins (← indexOfSegment segment))

/-- What segments lead to from a holder. -/
def follow (d : Draft) (holder : Holder) (segments : List String) : Except Misfit Holder :=
  segments.foldlM d.enter holder

/-- The segments of a path. -/
def segmentsOf (path : String) : List String := path.splitOn "/"

/-- What a path names: the model, an element that has a name of its own as a path, or what its segments lead
to from the model. -/
def locate (d : Draft) (named : List (String × Origin)) (path : Document) : Except Misfit Holder :=
  match path with
  | .text path =>
    if path == "M" then return .model
    else
      match named.lookup path with
      | some origin => return .element origin
      | none => d.follow .model (segmentsOf path)
  | other => throw (.noField other.fullKindName "split")

end ClassDiagram.Draft
