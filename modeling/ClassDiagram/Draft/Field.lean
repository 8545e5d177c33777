import ClassDiagram.Document.Mapping
import ClassDiagram.Draft.Lookup
import ClassDiagram.Draft.Route

/-!
# The fields of elements

What a field of an element, or of the model, holds when it is asked for by its name.  Only some fields hold
what one expects of them where lists of references or of elements are meant; for the others `Held` tells what
keeps them from being used so.
-/

set_option autoImplicit false

namespace ClassDiagram.Draft

/-- What a field holds. -/
inductive Held where
  /-- A value as documents have it. -/
  | value (d : Document)
  /-- One of a few words, by the sort of words. -/
  | word (sort : String)
  /-- A reference, if there is one. -/
  | reference (p : Option Pointer)
  /-- A list of references. -/
  | references (ps : List Pointer)
  /-- A list of elements, by their sorts. -/
  | elements (sorts : List String)
  /-- The model or an element, by its sort. -/
  | holder (sort : String)
  /-- Something that can be asked of the holder. -/
  | method

/-! ## Fields by name -/

/-- The sorts of elements. -/
def sortsOf {α : Type} (element : α → Element Handle Pointer) (items : List α) : List String :=
  items.map fun item => elementSort (element item)

/-- A visibility as a field holds it. -/
def heldVisibility : Option Visibility → Held
  | none => .value .null
  | some _ => .word "Visibility"

/-- The own fields of a package. -/
def packageField? (p : Package Handle Pointer) : String → Option Held
  | "packages" => some (.elements (sortsOf .package p.packages))
  | "types" => some (.elements (sortsOf .classifier p.types))
  | "iter_packages" => some .method
  | _ => none

/-- The own fields of a property. -/
def propertyField? (p : Property Handle Pointer) : String → Option Held
  | "type" => some (.reference p.type)
  | "lower" => some (.value p.lower.document)
  | "upper" => some (.value p.upper.document)
  | "visibility" => some (heldVisibility p.visibility)
  | "is_static" => some (.value (.bool p.isStatic))
  | "aggregation" => some (.word "AggregationType")
  | "is_many" => some (.value (.bool p.isList))
  | _ => none

/-- The own fields of an operation. -/
def operationField? (o : Operation Handle Pointer) : String → Option Held
  | "type" => some (.reference o.type)
  | "lower" => some (.value o.lower.document)
  | "upper" => some (.value o.upper.document)
  | "parameters" => some (.elements (sortsOf .parameter o.parameters))
  | "visibility" => some (heldVisibility o.visibility)
  | "is_static" => some (.value (.bool o.isStatic))
  | "is_abstract" => some (.value (.bool o.isAbstract))
  | "description" => some (.value o.description)
  | "content" => some (.value o.content)
  | _ => none

/-- The own fields of a type that its kind has. -/
def bodyField? (t : Classifier Handle Pointer) (field : String) : Option Held :=
  match field, t.body with
  | "is_abstract", .classBody c => some (.value (.bool c.isAbstract))
  | "has_abstract_operations", .classBody c => some (.value (.bool c.declaresAbstract))
  | "super_classes", .classBody c => some (.references c.superClasses)
  | "super_interfaces", .classBody c => some (.references c.superInterfaces)
  | "super_interfaces", .interface c => some (.references c.superInterfaces)
  | "literals", .enumeration literals => some (.value (.list (literals.map .text)))
  | _, _ =>
    if (Branch.ofWord? field).any fun b => (b.ofClassifier? t).isSome then
      if field == "operations" then some (.elements (sortsOf .operation t.operations))
      else some (.elements (sortsOf .property (t.properties ++ t.ends)))
    else none

/-- The package that a type is in, as a field of the type holds it. -/
def heldPackage (d : Draft) (holder : Option Holder) : Held :=
  match holder.bind d.package? with
  | none => .value .null
  | some _ => .holder "UmlPackage"

/-- The own fields of an element. -/
def ownField? (d : Draft) (e : Element Handle Pointer) (field : String) : Option Held :=
  match e with
  | .package p => packageField? p field
  | .property p => propertyField? p field
  | .operation o => operationField? o field
  | .parameter r => if field == "type" then some (.reference r.type) else none
  | .classifier t =>
    match field with
    | "kind" => some (.word "ElementKind")
    | "package" => some (d.heldPackage t.place.holder)
    | _ => bodyField? t field

/-- The fields of an element. -/
def elementField? (d : Draft) (e : Element Handle Pointer) (field : String) : Option Held :=
  match field with
  | "name" => some (.value (.text e.name))
  | "container" =>
    match e.place.holder with
    | none => some (.value .null)
    | some h => some (.holder (d.holderSort h))
  | "owned_elements" => some .method
  | "owned_references" => some .method
  | _ => d.ownField? e field

/-- The fields of the model. -/
def modelField? (d : Draft) (field : String) : Option Held :=
  let ofKind (kind : Kind) : Option Held :=
    some (.elements (sortsOf .classifier (d.model.ofKind kind)))
  match field with
  | "packages" => some (.elements (sortsOf .package d.model.packages))
  | "classes" => ofKind .classKind
  | "interfaces" => ofKind .interface
  | "associations" => ofKind .association
  | _ =>
    if ["link", "iter_packages", "iter_types", "iter_elements", "types_of_kind", "find_type"].contains field
    then some .method
    else none

/-- A reference that was given to a holder whose sort has no type. -/
def givenType? (d : Draft) (holder : Holder) : Option (Option Pointer) :=
  (d.givenTypes.find? (·.holder == holder)).map (·.type)

/-- What a field of a holder holds, if the holder has the field. -/
def field? (d : Draft) (holder : Holder) (field : String) : Option Held :=
  match d.given? holder field with
  | some value => some (.value value)
  | none =>
    match if field == "type" then d.givenType? holder else none with
    | some type => some (.reference type)
    | none =>
      match holder with
      | .model => d.modelField? field
      | .element origin => (d.element? origin).bind (d.elementField? · field)

/-- What a field of a holder holds; the holder must have the field. -/
def field (d : Draft) (holder : Holder) (field : String) : Except Misfit Held :=
  match d.field? holder field with
  | some held => return held
  | none => throw (.noField (d.holderSort holder) field)

/-- Whether a field of a holder follows from others, so that it cannot be set. -/
def isDerived (d : Draft) (holder : Holder) (field : String) : Bool :=
  match holder with
  | .model => ["classes", "interfaces", "associations"].contains field
  | .element origin =>
    match d.element? origin with
    | some (.property _) => field == "is_many"
    | some (.classifier t) =>
      field == "package" || (t.kind == .classKind && field == "has_abstract_operations")
    | _ => false

/-! ## Uses of what a field holds -/

namespace Held

/-- The sort of what a field holds, as messages call it. -/
def sort : Held → String
  | value d => d.fullKindName
  | word sort => sort
  | reference none => "NoneType"
  | reference (some _) => "Reference"
  | references _ => "list"
  | elements _ => "list"
  | holder sort => sort
  | method => "method"

/-- The sort of what is asked for a field in turn: a method passes that on to its function. -/
def sortAsked : Held → String
  | method => "function"
  | held => held.sort

/-- What a field holds as references that are followed. -/
def asReferences : Held → Except Misfit (List Pointer)
  | references ps => return ps
  | elements [] => return []
  | elements (sort :: _) => throw (.noField sort "ref")
  | value d =>
    match d.parts? with
    | some [] => return []
    | some (part :: _) => throw (.noField part.fullKindName "ref")
    | none => throw (.noParts d.fullKindName)
  | held => throw (.noParts held.sort)

/-- Whether a field holds a list, which `use` needs. -/
def mustBeList (use : String) : Held → Except Misfit Unit
  | references _ | elements _ | value (.list _) => return
  | held => throw (.noField held.sortAsked use)

/-- The place that a value names in a list of a length, which may count from the end. -/
def placeIn (length : Nat) (index : Document) (absent : Misfit) : Except Misfit Nat :=
  match index.asInt? with
  | none => throw (.notPlace index.fullKindName)
  | some i => placeAt length i absent

/-- What is at the place that a value names in something, with the position. -/
def pick (index : Document) : Held → Except Misfit (Nat × Held)
  | references ps => do
    let i ← placeIn ps.length index .noItem
    return (i, reference ((ps[i]?).filter (!·.isAbsent)))
  | elements sorts => do
    let i ← placeIn sorts.length index .noItem
    return (i, holder (sorts.getD i ""))
  | value (.list items) => do
    let i ← placeIn items.length index .noItem
    return (i, value (items.getD i .null))
  | value (.text text) => do
    if index.asInt?.isNone then throw (.notTextPlace index.fullKindName)
    let i ← placeIn text.length index .noCharacter
    return (i, value (.text ((text.toList.getD i ' ').toString)))
  | value (.map entries) => do
    match Document.valueAt? (← index.asKey) entries with
    | some found => return (0, value found)
    | none => throw (.noEntry (index.literal?.getD ""))
  | held => throw (.noPlaces held.sort)

/-- Whether something can be put at the place that a value names, and where. -/
def placeToSet (index : Document) : Held → Except Misfit Nat
  | references ps => placeIn ps.length index .noItemToReplace
  | elements sorts => placeIn sorts.length index .noItemToReplace
  | value (.list items) => placeIn items.length index .noItemToReplace
  | value (.map _) => return 0
  | held => throw (.noPlacesToSet held.sort)

end Held

end ClassDiagram.Draft
