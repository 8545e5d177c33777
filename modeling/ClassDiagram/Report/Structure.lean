import ClassDiagram.Association
import ClassDiagram.Report.Basic

/-!
# Reports of associations and of inheritance
-/

set_option autoImplicit false

namespace ClassDiagram.Report

/-- A call on another object. -/
def call (c : PartnerCall) : Document :=
  .list [.text c.kind.verb, .text c.role, .bool c.passesSelf, .text c.method]

/-- A member that an association adds to a class. -/
def member (m : AssociationMember) : Document :=
  record [("name", .text m.name), ("end", key m.far.place.key),
    ("opposite", key m.opposite.place.key), ("owner", key m.owner.key),
    ("association", keyIfAny m.far.place.holder), ("target", keyIfAny (m.target.map (·.key))),
    ("lower", m.far.lower.document), ("upper", m.far.upper.document), ("many", .bool m.isList),
    ("aggregation", .text m.far.aggregation.word), ("bidirectional", .bool m.isBidirectional),
    ("attach", optional call m.onAttach), ("detach", optional call m.onDetach),
    ("accessors", each (fun kind => .text (m.methodFor kind)) AccessorKind.all)]

/-- The associations of a class, and its members. -/
def classAssociations (m : Linked) (t : LinkedType) : Document :=
  record [("class", key t.key), ("applicable", each (fun a => key a.key) (m.associationsAt t.key)),
    ("foreign", each (fun a => each (fun e => key e.place.key) (farEnds a.ends t.key)) m.associations),
    ("members", each member (m.associationMembers t))]

/-- An end of an association, its type and the other end. -/
def associationEnd (m : Linked) (e : LinkedProperty) : Document :=
  .list [key e.place.key, keyIfAny (e.endType.map (·.key)),
    keyIfAny ((m.opposite? e).map (·.place.key))]

/-- The associations of a model. -/
def associations (m : Linked) : Document :=
  record [("classes", each (classAssociations m) m.classes),
    ("ends", each (fun a => each (associationEnd m) a.ends) m.associations)]

/-- A node on a cycle over a field. -/
def cycle (field : String) (c : CycleNode Key) : Document :=
  .list [key c.node, .text field, count c.index]

/-- A graph over a field: its nodes with their supers, and its cycles. -/
def graph (field : String) (g : SuperGraph Key) : Document :=
  record [("nodes", each (fun n =>
      .list [key n, each keyIfAny (g.supersOf n), optional count (g.returnIndex? n)]) g.nodes),
    ("cycles", each (cycle field) g.cycleNodes)]

/-- The graphs of super classes and of super interfaces. -/
def inheritance (m : Linked) : Document :=
  .list [graph "super_classes" m.superClassGraph, graph "super_interfaces" m.superInterfaceGraph]

end ClassDiagram.Report
