import ClassDiagram.Association
import ClassDiagram.Draft.Lookup
import ClassDiagram.Model.Change

/-!
# The linked form of a draft

Every element in its present place and every reference with the target that asking for it gives.
Elements that are aside have keys of their own.
-/

set_option autoImplicit false

namespace ClassDiagram.Draft

/-- The elements outside the tree. -/
def outside (d : Draft) : List (Element Handle Pointer) := d.aside.flatMap Element.all

/-- The key of an element, given the positions of the tree. -/
def keyIn (d : Draft) (positions : Positions) (origin : Origin) : Key :=
  match List.lookup origin positions with
  | some path => .inside path
  | none =>
    .outside (d.outside.findIdx (·.place.origin == origin))
      (((d.element? origin).map (·.name)).getD "")

/-- The key of an element. -/
def key (d : Draft) (origin : Origin) : Key := d.keyIn d.positions origin

/-- The key of a holder; that of the model is the empty position. -/
def holderKey (d : Draft) (positions : Positions) : Holder → Key
  | .model => .inside []
  | .element origin => d.keyIn positions origin

/-- The holder with a key. -/
def holderAt? (d : Draft) (positions : Positions) : Key → Option Holder
  | .inside [] => some .model
  | .inside path => (positions.originAt? path).map .element
  | .outside serial _ => (d.outside[serial]?).map fun e => .element e.place.origin

/-- The place of an element. -/
def placeOf (d : Draft) (positions : Positions) (h : Handle) : Place :=
  ⟨d.keyIn positions h.origin, d.home h.origin, h.holder.map (d.holderKey positions)⟩

/-- The kind that an element counts as when a reference leads to it.  A reference leads to what is not a
type if it was made so; such an element is only named, as an association is. -/
def kindAsTarget : Element Handle Pointer → Kind
  | .classifier t => t.kind
  | _ => .association

/-- The model as a target, where a reference was made to lead to it. -/
def modelTarget (d : Draft) : Target :=
  ⟨.inside [], .association, ((d.given? .model "name").bind (·.display?)).getD "", []⟩

/-- A holder as a target. -/
def targetAt (d : Draft) (positions : Positions) : Holder → Option Target
  | .model => some d.modelTarget
  | .element origin => (d.element? origin).map fun e =>
    ⟨d.keyIn positions origin, kindAsTarget e, e.name, d.home origin⟩

/-- The link for a reference of an element. -/
def linkOf (d : Draft) (positions : Positions) (h : Handle) (field : RefField) (_ : Nat)
    (p : Pointer) : Link :=
  ⟨p.label, (d.targetOf h.origin field p).bind (d.targetAt positions)⟩

/-- The type that an element is. -/
def asType {ι ρ : Type} : Element ι ρ → Option (Classifier ι ρ)
  | .classifier t => some t
  | _ => none

/-- The linked form of a draft. -/
def view (d : Draft) : Linked :=
  let positions := d.positions
  ⟨d.model.map (d.placeOf positions) (d.linkOf positions),
    (d.outside.filterMap asType).map (·.map (d.placeOf positions) (d.linkOf positions))⟩

/-! ## Values beside the tree -/

/-- The values that were given beside the tree, by the keys of their holders and their fields. -/
structure GivenAt where
  values : List ((Key × String) × Document)
  deriving Repr

/-- What a field of an element has: what was given for it, or what the tree has. -/
def GivenAt.value (g : GivenAt) (key : Key) (field : String) (own : Document) : Document :=
  (g.values.lookup (key, field)).getD own

/-- The name of an element. -/
def GivenAt.name (g : GivenAt) (key : Key) (own : String) : Document := g.value key "name" (.text own)

/-- The literals of a type as they were given. -/
def GivenAt.literals (g : GivenAt) (t : LinkedType) : Except Misfit (List Document) :=
  match t.body with
  | .enumeration literals =>
    match g.values.lookup (t.key, "literals") with
    | none => return literals.map .text
    | some value =>
      match value.parts? with
      | some parts => return parts
      | none => throw (.noParts value.fullKindName)
  | _ => return []

/-- The values that were given beside the tree. -/
def givenAt (d : Draft) : GivenAt :=
  let positions := d.positions
  ⟨d.given.map fun g => ((d.holderKey positions g.holder, g.field), g.value)⟩

/-! ## Names that do not count -/

/-- A name, which is empty if what was given for it does not count. -/
def GivenAt.counted (g : GivenAt) (key : Key) (name : String) : String :=
  if (g.name key name).isGiven then name else ""

/-- The literals of a type, which are empty if what was given for them does not count. -/
def GivenAt.countedLiterals (g : GivenAt) (key : Key) (literals : List String) : List String :=
  match (g.values.lookup (key, "literals")).bind (·.parts?) with
  | none => literals
  | some parts => (literals.zip parts).map fun (literal, part) => if part.isGiven then literal else ""

/-- A link in a field, with an empty name of its target where that is a type and its name does not count. -/
def GivenAt.quietLink (g : GivenAt) (field : RefField) (l : Link) : Link :=
  if field = .type then
    { l with target := l.target.map fun t => { t with name := g.counted t.key t.name } }
  else l

/-- A type, with empty names and literals for those that do not count where they stand alone. -/
def GivenAt.quietType (g : GivenAt) (t : LinkedType) : LinkedType :=
  match t.body with
  | .association _ => { t with name := g.counted t.key t.name }
  | .enumeration literals => { t with body := .enumeration (g.countedLiterals t.key literals) }
  | _ => t

/-- A linked model in which names and literals that do not count are empty where they stand alone: as the
type of an element, as the label of an association and as a line of an enumeration. -/
def GivenAt.quiet (g : GivenAt) (m : Linked) : Linked :=
  let change : Change Place Link := { classifier := g.quietType }
  { m with model := change.ofModel (m.model.map id fun _ field _ l => g.quietLink field l) }

/-! ## Forms -/

/-- What an analysis of a draft works on: the positions of its elements, its linked form, the values given
beside the tree, and the linked form with empty names where they do not count. -/
structure Forms where
  positions : Positions
  linked : Linked
  given : GivenAt
  quiet : Linked

/-- The forms of a draft. -/
def forms (d : Draft) : Forms :=
  let linked := d.view
  let given := d.givenAt
  ⟨d.positions, linked, given, given.quiet linked⟩

/-- A type of a draft in all its forms. -/
structure TypeForms where
  own : Classifier Handle Pointer
  linked : LinkedType
  quiet : LinkedType

/-- Types that are given in each of their forms. -/
def TypeForms.ofLists (own : List (Classifier Handle Pointer)) (linked quiet : List LinkedType) :
    List TypeForms :=
  (own.zip (linked.zip quiet)).map fun (own, linked, quiet) => ⟨own, linked, quiet⟩

/-- The types of a draft. -/
def typeForms (d : Draft) (f : Forms) : List TypeForms :=
  TypeForms.ofLists d.model.types f.linked.model.types f.quiet.model.types

/-! ## Ends -/

/-- The other end of the association that an element is an end of. -/
def opposite? (d : Draft) (origin : Origin) : Option Key :=
  let m := d.view
  let key := d.key origin
  let found := m.model.elements.findSome? fun e =>
    match e with
    | .property p => if p.place.key = key then some p else none
    | _ => none
  (found.bind m.opposite?).map (·.place.key)

end ClassDiagram.Draft
