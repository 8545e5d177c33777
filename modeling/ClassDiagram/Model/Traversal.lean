import ClassDiagram.Model.Basic

/-!
# Walks over a model

Packages and types come depth first, a package before the packages in it; elements come with every
container before its contents, the packages of a package before its types.
-/

set_option autoImplicit false

namespace ClassDiagram

variable {ι ρ κ σ : Type}

/-- The fields of elements that hold references. -/
inductive RefField where
  | type
  | superClasses
  | superInterfaces
  deriving Repr, DecidableEq

/-- The name of a field in diagnostics. -/
def RefField.word : RefField → String
  | type => "type"
  | superClasses => "super_classes"
  | superInterfaces => "super_interfaces"

/-- The field with a name. -/
def RefField.ofWord? (word : String) : Option RefField :=
  [type, superClasses, superInterfaces].find? (·.word == word)

/-- The kinds of types that a reference in a field may lead to. -/
def RefField.kinds : RefField → List Kind
  | type => Kind.ofValues
  | superClasses => [.classKind]
  | superInterfaces => [.interface]

/-- An element of a model. -/
inductive Element (ι ρ : Type) where
  | package (p : Package ι ρ)
  | classifier (t : Classifier ι ρ)
  | property (p : Property ι ρ)
  | operation (o : Operation ι ρ)
  | parameter (r : Parameter ι ρ)
  deriving Repr

namespace Element

/-- The place of an element. -/
def place : Element ι ρ → ι
  | package p => p.place
  | classifier t => t.place
  | property p => p.place
  | operation o => o.place
  | parameter r => r.place

/-- The name of an element. -/
def name : Element ι ρ → String
  | package p => p.name
  | classifier t => t.name
  | property p => p.name
  | operation o => o.name
  | parameter r => r.name

end Element

/-- The reference of a typed element, as the only one of its field. -/
def typeReference (type : Option ρ) : List (RefField × Nat × ρ) :=
  type.toList.map (.type, 0, ·)

/-- References of a list field, each with its position. -/
def numbered (field : RefField) (references : List ρ) : List (RefField × Nat × ρ) :=
  references.zipIdx.map fun (r, i) => (field, i, r)

/-- The super references of a type: those of a class to classes, then those to interfaces. -/
def Classifier.superReferences (t : Classifier ι ρ) : List (RefField × Nat × ρ) :=
  match t.body with
  | .classBody c => numbered .superClasses c.superClasses ++ numbered .superInterfaces c.superInterfaces
  | .interface c => numbered .superInterfaces c.superInterfaces
  | _ => []

/-- The references in one field of a type that hold super types. -/
def Classifier.supersIn (t : Classifier ι ρ) (field : RefField) : List ρ :=
  match t.body, field with
  | .classBody c, .superClasses => c.superClasses
  | .classBody c, .superInterfaces => c.superInterfaces
  | .interface c, .superInterfaces => c.superInterfaces
  | _, _ => []

/-- The references that an element itself declares, each with its field and position. -/
def Element.references : Element ι ρ → List (RefField × Nat × ρ)
  | .package _ => []
  | .classifier t => t.superReferences
  | .property p => typeReference p.type
  | .operation o => typeReference o.type
  | .parameter r => typeReference r.type

/-- An operation and its parameters. -/
def Operation.elements (o : Operation ι ρ) : List (Element ι ρ) :=
  .operation o :: o.parameters.map .parameter

/-- A type and all that it holds. -/
def Classifier.elements (t : Classifier ι ρ) : List (Element ι ρ) :=
  .classifier t :: (t.properties.map .property ++ t.operations.flatMap Operation.elements ++
    t.ends.map .property)

mutual

/-- A package followed by all packages in it. -/
def Package.all : Package ι ρ → List (Package ι ρ)
  | ⟨place, name, packages, types⟩ => ⟨place, name, packages, types⟩ :: allPackages packages

/-- The packages of a list, each followed by all packages in it. -/
def allPackages : List (Package ι ρ) → List (Package ι ρ)
  | [] => []
  | p :: rest => p.all ++ allPackages rest

end

mutual

/-- A package and all elements in it. -/
def Package.elements : Package ι ρ → List (Element ι ρ)
  | ⟨place, name, packages, types⟩ =>
    .package ⟨place, name, packages, types⟩ ::
      (allElements packages ++ types.flatMap Classifier.elements)

/-- The packages of a list and all elements in them. -/
def allElements : List (Package ι ρ) → List (Element ι ρ)
  | [] => []
  | p :: rest => p.elements ++ allElements rest

end

/-- An element and all that it holds. -/
def Element.all : Element ι ρ → List (Element ι ρ)
  | .package p => p.elements
  | .classifier t => t.elements
  | .property p => [.property p]
  | .operation o => o.elements
  | .parameter r => [.parameter r]

namespace Model

/-- All packages of a model. -/
def allPackages (m : Model ι ρ) : List (Package ι ρ) := ClassDiagram.allPackages m.packages

/-- All types of a model. -/
def types (m : Model ι ρ) : List (Classifier ι ρ) := m.allPackages.flatMap (·.types)

/-- All elements of a model. -/
def elements (m : Model ι ρ) : List (Element ι ρ) := allElements m.packages

/-- The types of one kind. -/
def ofKind (m : Model ι ρ) (kind : Kind) : List (Classifier ι ρ) :=
  m.types.filter (·.kind == kind)

end Model

/-! ## Replacing places and references

A reference is replaced with a view of the place of the element that declares it, its field and its
position in the field. -/

/-- The same parameter with another place and reference. -/
def Parameter.map (f : ι → κ) (g : ι → RefField → Nat → ρ → σ) (r : Parameter ι ρ) : Parameter κ σ :=
  ⟨f r.place, r.name, r.type.map (g r.place .type 0), r.upper⟩

/-- The same property with another place and reference. -/
def Property.map (f : ι → κ) (g : ι → RefField → Nat → ρ → σ) (p : Property ι ρ) : Property κ σ :=
  ⟨f p.place, p.name, p.type.map (g p.place .type 0), p.lower, p.upper, p.visibility, p.isStatic,
    p.aggregation⟩

/-- The same operation with other places and references. -/
def Operation.map (f : ι → κ) (g : ι → RefField → Nat → ρ → σ) (o : Operation ι ρ) : Operation κ σ :=
  ⟨f o.place, o.name, o.type.map (g o.place .type 0), o.lower, o.upper, o.parameters.map (·.map f g),
    o.visibility, o.isStatic, o.isAbstract, o.description, o.content⟩

/-- The same declarations of a type at `place` with other places and references. -/
def Body.map (f : ι → κ) (g : ι → RefField → Nat → ρ → σ) (place : ι) : Body ι ρ → Body κ σ
  | .classBody c => .classBody
    ⟨c.isAbstract, c.properties.map (·.map f g), c.operations.map (·.map f g),
      c.superClasses.mapIdx (g place .superClasses),
      c.superInterfaces.mapIdx (g place .superInterfaces)⟩
  | .interface c => .interface
    ⟨c.properties.map (·.map f g), c.operations.map (·.map f g),
      c.superInterfaces.mapIdx (g place .superInterfaces)⟩
  | .datatype properties => .datatype (properties.map (·.map f g))
  | .primitive => .primitive
  | .enumeration literals => .enumeration literals
  | .association ends => .association (ends.map (·.map f g))

/-- The same type with other places and references. -/
def Classifier.map (f : ι → κ) (g : ι → RefField → Nat → ρ → σ) (t : Classifier ι ρ) :
    Classifier κ σ :=
  ⟨f t.place, t.name, t.body.map f g t.place⟩

mutual

/-- The same package with other places and references. -/
def Package.map (f : ι → κ) (g : ι → RefField → Nat → ρ → σ) : Package ι ρ → Package κ σ
  | ⟨place, name, packages, types⟩ =>
    ⟨f place, name, mapPackages f g packages, types.map (·.map f g)⟩

/-- The same packages with other places and references. -/
def mapPackages (f : ι → κ) (g : ι → RefField → Nat → ρ → σ) :
    List (Package ι ρ) → List (Package κ σ)
  | [] => []
  | p :: rest => p.map f g :: mapPackages f g rest

end

/-- The same model with other places and references. -/
def Model.map (f : ι → κ) (g : ι → RefField → Nat → ρ → σ) (m : Model ι ρ) : Model κ σ :=
  ⟨mapPackages f g m.packages⟩

/-- The same element with other places and references. -/
def Element.map (f : ι → κ) (g : ι → RefField → Nat → ρ → σ) : Element ι ρ → Element κ σ
  | .package p => .package (p.map f g)
  | .classifier t => .classifier (t.map f g)
  | .property p => .property (p.map f g)
  | .operation o => .operation (o.map f g)
  | .parameter r => .parameter (r.map f g)

end ClassDiagram
