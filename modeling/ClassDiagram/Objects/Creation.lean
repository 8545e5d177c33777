import ClassDiagram.Objects.Exchange

/-!
# Creation of objects

The class that a name means, and the slots that its objects have.
-/

set_option autoImplicit false

namespace ClassDiagram

namespace Linked

/-- The index of a linked model. -/
def nameTree (m : Linked) : NameTree Target := m.model.nameTree Classifier.target

/-- The type with a qualified name, associations included. -/
def typeNamed? (m : Linked) (name : String) : Option Target := m.nameTree.findQualified Kind.all name

/-- The type with a key. -/
def typeWithKey? (m : Linked) (key : Key) : Option LinkedType := m.everyType.find? (·.key == key)

/-- The class that a name means: the one with this qualified name, or the first with this name. -/
def classNamed? (m : Linked) (name : String) : Option LinkedType :=
  let qualified := (m.typeNamed? name).bind fun t =>
    if t.kind == .classKind then m.typeWithKey? t.key else none
  qualified.orElse fun _ => m.classes.find? (·.name == name)

end Linked

namespace Objects

/-- The heap with a new object of a class. -/
def Heap.create (h : Heap) (m : Linked) (owner : LinkedType) : Heap :=
  h.add owner.name (m.associationMembers owner)

end Objects

end ClassDiagram
