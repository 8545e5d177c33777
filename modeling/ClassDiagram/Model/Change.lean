import ClassDiagram.Model.Traversal

/-!
# Changes of elements

A change has a function for each sort of element; it is applied to every element of a tree, to what an
element holds before the element itself.
-/

set_option autoImplicit false

namespace ClassDiagram

variable {ι ρ : Type}

/-- What becomes of the elements of each sort. -/
structure Change (ι ρ : Type) where
  package : Package ι ρ → Package ι ρ := id
  classifier : Classifier ι ρ → Classifier ι ρ := id
  property : Property ι ρ → Property ι ρ := id
  operation : Operation ι ρ → Operation ι ρ := id
  parameter : Parameter ι ρ → Parameter ι ρ := id

/-! ## The lists of a type -/

/-- Changes the list of properties, where there is one. -/
def Body.changeProperties (f : List (Property ι ρ) → List (Property ι ρ)) : Body ι ρ → Body ι ρ
  | .classBody c => .classBody { c with properties := f c.properties }
  | .interface c => .interface { c with properties := f c.properties }
  | .datatype properties => .datatype (f properties)
  | other => other

/-- Changes the list of operations, where there is one. -/
def Body.changeOperations (f : List (Operation ι ρ) → List (Operation ι ρ)) : Body ι ρ → Body ι ρ
  | .classBody c => .classBody { c with operations := f c.operations }
  | .interface c => .interface { c with operations := f c.operations }
  | other => other

/-- Changes the list of ends, where there is one. -/
def Body.changeEnds (f : List (Property ι ρ) → List (Property ι ρ)) : Body ι ρ → Body ι ρ
  | .association ends => .association (f ends)
  | other => other

/-- Changes a list of super references, where there is one. -/
def Body.changeSupers (field : RefField) (f : List ρ → List ρ) : Body ι ρ → Body ι ρ
  | .classBody c =>
    match field with
    | .superClasses => .classBody { c with superClasses := f c.superClasses }
    | .superInterfaces => .classBody { c with superInterfaces := f c.superInterfaces }
    | .type => .classBody c
  | .interface c =>
    match field with
    | .superInterfaces => .interface { c with superInterfaces := f c.superInterfaces }
    | _ => .interface c
  | other => other

/-! ## Changing a tree -/

namespace Change

/-- An operation and its parameters after a change. -/
def ofOperation (r : Change ι ρ) (o : Operation ι ρ) : Operation ι ρ :=
  r.operation { o with parameters := o.parameters.map r.parameter }

/-- A type and all that it holds after a change. -/
def ofClassifier (r : Change ι ρ) (t : Classifier ι ρ) : Classifier ι ρ :=
  let body := ((t.body.changeProperties (·.map r.property)).changeOperations (·.map r.ofOperation))
    |>.changeEnds (·.map r.property)
  r.classifier { t with body := body }

mutual

/-- A package and all that it holds after a change. -/
def ofPackage (r : Change ι ρ) : Package ι ρ → Package ι ρ
  | ⟨place, name, packages, types⟩ =>
    r.package ⟨place, name, ofPackages r packages, types.map r.ofClassifier⟩

/-- Packages and all that they hold after a change. -/
def ofPackages (r : Change ι ρ) : List (Package ι ρ) → List (Package ι ρ)
  | [] => []
  | p :: rest => ofPackage r p :: ofPackages r rest

end

/-- A model after a change. -/
def ofModel (r : Change ι ρ) (m : Model ι ρ) : Model ι ρ := ⟨r.ofPackages m.packages⟩

/-- An element and all that it holds after a change. -/
def ofElement (r : Change ι ρ) : Element ι ρ → Element ι ρ
  | .package p => .package (r.ofPackage p)
  | .classifier t => .classifier (r.ofClassifier t)
  | .property p => .property (r.property p)
  | .operation o => .operation (r.ofOperation o)
  | .parameter p => .parameter (r.parameter p)

end Change

end ClassDiagram
