import ClassDiagram.SuperGraph

/-!
# What associations add to classes

A class that takes part in an association has a member for the end on the far side.  The accessors of
such a member keep both sides consistent: after a change they call the accessor of the opposite end on
the other object.
-/

set_option autoImplicit false

namespace ClassDiagram

/-- A call that an accessor makes on another object: which accessor of which member, and whether it
passes the object itself or nothing. -/
structure PartnerCall where
  kind : AccessorKind
  role : String
  passesSelf : Bool
  deriving Repr, DecidableEq

/-- The name of the method that is called. -/
def PartnerCall.method (c : PartnerCall) : String := c.kind.method c.role

/-- The type at an end of an association. -/
def Property.endType (p : LinkedProperty) : Option Target := p.type.bind (·.target)

/-- A member that a class has because of an association: the end on the far side, whose name and bounds
count, and the end at the class itself. -/
structure AssociationMember where
  owner : LinkedType
  far : LinkedProperty
  opposite : LinkedProperty
  deriving Repr

namespace AssociationMember

/-- The name of a member. -/
def name (m : AssociationMember) : String := m.far.name

/-- The type of the values of a member. -/
def target (m : AssociationMember) : Option Target := m.far.endType

/-- Whether a member holds a list. -/
def isList (m : AssociationMember) : Bool := m.far.isList

/-- Whether the objects that a member holds have the opposite member: classes do. -/
def isBidirectional (m : AssociationMember) : Bool :=
  match m.target with
  | some t => t.kind == .classKind
  | none => false

/-- The call on a value that was linked. -/
def onAttach (m : AssociationMember) : Option PartnerCall :=
  if m.isBidirectional then
    some ⟨if m.opposite.isList then .addTo else .set, m.opposite.name, true⟩
  else none

/-- The call on a value that was unlinked. -/
def onDetach (m : AssociationMember) : Option PartnerCall :=
  if m.isBidirectional then
    if m.opposite.isList then some ⟨.removeFrom, m.opposite.name, true⟩
    else some ⟨.set, m.opposite.name, false⟩
  else none

/-- The name of an accessor of a member. -/
def methodFor (m : AssociationMember) (kind : AccessorKind) : String := kind.method m.name

end AssociationMember

/-- Whether a type at an end is a given class. -/
def isEndAt (p : LinkedProperty) (owner : Key) : Bool :=
  match p.endType with
  | some t => t.key == owner
  | none => false

/-- The ends of an association that are members of a class: the far one, or both when both are at the
class.  An association with other than two ends adds nothing. -/
def farEnds (ends : List LinkedProperty) (owner : Key) : List LinkedProperty :=
  match ends with
  | [first, second] =>
    match isEndAt first owner, isEndAt second owner with
    | true, true => [first, second]
    | true, false => [second]
    | false, true => [first]
    | false, false => []
  | _ => []

/-- Drops the later ones of equal keys. -/
def distinctKeys (keys : List Key) : List Key :=
  keys.foldl (fun seen k => if seen.contains k then seen else seen ++ [k]) []

namespace Linked

/-- The associations of a model. -/
def associations (m : Linked) : List LinkedType := m.model.ofKind .association

/-- The classes of a model. -/
def classes (m : Linked) : List LinkedType := m.model.ofKind .classKind

/-- The association that an end belongs to. -/
def associationOf? (m : Linked) (p : LinkedProperty) : Option LinkedType :=
  match p.place.holder with
  | none => none
  | some key => m.everyType.find? fun t => t.kind == .association && t.key == key

/-- The other end: the first one of its association that is not the given one. -/
def opposite? (m : Linked) (p : LinkedProperty) : Option LinkedProperty :=
  match m.associationOf? p with
  | none => none
  | some a => a.ends.find? fun e => e.place.key != p.place.key

/-- The classes at the ends of an association, each once. -/
def participatingClasses (a : LinkedType) : List Key :=
  distinctKeys (a.ends.filterMap fun e =>
    match e.endType with
    | some t => if t.kind == .classKind then some t.key else none
    | none => none)

/-- For each association in turn the classes that take part in it. -/
def participations (m : Linked) : List (Key × LinkedType) :=
  m.associations.flatMap fun a => (participatingClasses a).map fun k => (k, a)

/-- The associations in which a class takes part. -/
def associationsAt (m : Linked) (owner : Key) : List LinkedType :=
  (m.participations.filter (·.1 == owner)).map Prod.snd

/-- The members that associations add to a class. -/
def associationMembers (m : Linked) (owner : LinkedType) : List AssociationMember :=
  (m.associationsAt owner.key).flatMap fun a =>
    (farEnds a.ends owner.key).filterMap fun far =>
      if far.endType.isSome then (m.opposite? far).map fun opposite => ⟨owner, far, opposite⟩
      else none

end Linked

end ClassDiagram
