import ClassDiagram.Association

/-!
# Objects and their slots

Objects of the classes of a model, as far as the members of associations are concerned.  An object is
known by its number; each of its slots holds one object or none, or a list of objects.
-/

set_option autoImplicit false

namespace ClassDiagram.Objects

/-- What a slot holds: one object or none, or a list of objects. -/
inductive Holding where
  | one (value : Option Nat)
  | many (values : List Nat)
  deriving Repr, DecidableEq

/-- The objects that a slot holds. -/
def Holding.values : Holding → List Nat
  | one value => value.toList
  | many values => values

/-- A member of an object: its name, the calls to make on objects that are linked and unlinked, and
what it holds. -/
structure Slot where
  name : String
  attach : Option PartnerCall
  detach : Option PartnerCall
  holding : Holding
  deriving Repr, DecidableEq

/-- The empty slot of a member. -/
def Slot.ofMember (m : AssociationMember) : Slot :=
  ⟨m.name, m.onAttach, m.onDetach, if m.isList then .many [] else .one none⟩

/-- Puts a slot in the place of the one with its name, or at the end. -/
def putSlot (slot : Slot) : List Slot → List Slot
  | [] => [slot]
  | s :: rest => if s.name = slot.name then slot :: rest else s :: putSlot slot rest

/-- The slots of the members of a class; of members with one name the last one counts, in the place of
the first. -/
def slotsOf (members : List AssociationMember) : List Slot :=
  members.foldl (fun slots m => putSlot (Slot.ofMember m) slots) []

/-- An object: the name of its class, its slots and the accessors that it ran, the last one first. -/
structure Object where
  className : String
  slots : List Slot
  calls : List String
  deriving Repr, DecidableEq

/-- The slot of an object with a name. -/
def Object.slot? (o : Object) (role : String) : Option Slot := o.slots.find? (·.name == role)

/-- The object with another content of a slot. -/
def Object.hold (o : Object) (role : String) (holding : Holding) : Object :=
  { o with slots := o.slots.map fun s => if s.name == role then { s with holding := holding } else s }

/-- The object after it began to run an accessor. -/
def Object.record (o : Object) (method : String) : Object := { o with calls := method :: o.calls }

/-- All objects; the number of an object is its position. -/
structure Heap where
  objects : List Object
  deriving Repr, DecidableEq

namespace Heap

/-- No objects. -/
def empty : Heap := ⟨[]⟩

/-- The object with a number. -/
def object? (h : Heap) (id : Nat) : Option Object := h.objects[id]?

/-- Changes the object with a number. -/
def modify (h : Heap) (id : Nat) (f : Object → Object) : Heap := ⟨h.objects.modify id f⟩

/-- Sets what a slot holds. -/
def hold (h : Heap) (id : Nat) (role : String) (holding : Holding) : Heap :=
  h.modify id (·.hold role holding)

/-- Records that an object began to run an accessor. -/
def record (h : Heap) (id : Nat) (kind : AccessorKind) (role : String) : Heap :=
  h.modify id (·.record (kind.method role))

/-- Adds an object; its number is that of the objects before. -/
def add (h : Heap) (className : String) (members : List AssociationMember) : Heap :=
  ⟨h.objects ++ [⟨className, slotsOf members, []⟩]⟩

/-- The number of slots of all objects. -/
def slotCount (h : Heap) : Nat := (h.objects.map (·.slots.length)).foldr (· + ·) 0

/-- The number of objects in the slots of all objects. -/
def linkCount (h : Heap) : Nat :=
  (h.objects.map fun o => (o.slots.map (·.holding.values.length)).foldr (· + ·) 0).foldr (· + ·) 0

end Heap

end ClassDiagram.Objects
