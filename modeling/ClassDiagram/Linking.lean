import ClassDiagram.NameTree

/-!
# Linked models

Linking gives every element its place, that is its position in the tree and the names of the packages
around it, and every reference its target.  In a linked model an element is known by its key, which is
its position; types outside the tree, to which a reference may still lead, have keys of their own.
-/

set_option autoImplicit false

namespace ClassDiagram

/-- A step from an element to one that it holds: the list to look in and the position there. -/
inductive Step where
  | package (index : Nat)
  | type (index : Nat)
  | property (index : Nat)
  | operation (index : Nat)
  | parameter (index : Nat)
  | associationEnd (index : Nat)
  deriving Repr, DecidableEq

/-- A position in a model: the steps from the model to an element.  The model itself has none. -/
abbrev Path := List Step

/-- What an element is known by: its position in the tree, or a number and its name when it is outside
the tree. -/
inductive Key where
  | inside (path : Path)
  | outside (serial : Nat) (name : String)
  deriving Repr, DecidableEq

/-- The position that a key stands for; the empty one for an element outside the tree. -/
def Key.path : Key → Path
  | inside path => path
  | outside _ _ => []

/-- The place of an element: its key, the names of the packages around it from the outermost on (for a
package its own included) and the key of what holds it. -/
structure Place where
  key : Key
  home : List String
  holder : Option Key
  deriving Repr, DecidableEq

/-- A type that a reference leads to. -/
structure Target where
  key : Key
  kind : Kind
  name : String
  home : List String
  deriving Repr, DecidableEq

instance : HasKind Target := ⟨Target.kind⟩

/-- A reference in a linked model: its name and the type that it leads to, if any. -/
structure Link where
  name : String
  target : Option Target
  deriving Repr, DecidableEq

/-- A linked model, and the types outside it that references lead to or elements still belong to. -/
structure Linked where
  model : Model Place Link
  strays : List (Classifier Place Link)
  deriving Repr

/-- A type of a linked model. -/
abbrev LinkedType := Classifier Place Link

/-- A property of a linked model. -/
abbrev LinkedProperty := Property Place Link

/-- An operation of a linked model. -/
abbrev LinkedOperation := Operation Place Link

/-- A package of a linked model. -/
abbrev LinkedPackage := Package Place Link

/-- The key of a type. -/
def Classifier.key {ρ : Type} (t : Classifier Place ρ) : Key := t.place.key

/-- What a reference to a type leads to. -/
def Classifier.target {ρ : Type} (t : Classifier Place ρ) : Target :=
  ⟨t.place.key, t.kind, t.name, t.place.home⟩

namespace Linking

variable {ι ρ : Type}

/-! ## Places -/

/-- The same list of elements, each settled at its position. -/
def settleList {α β : Type} (settle : Nat → α → β) (items : List α) : List β :=
  items.zipIdx.map fun (item, i) => settle i item

/-- The place of an element that `holder` holds by a step. -/
def placeIn (holder : Path) (home : List String) (step : Step) : Place :=
  ⟨.inside (holder ++ [step]), home, some (.inside holder)⟩

/-- A parameter in its place. -/
def settleParameter (holder : Path) (home : List String) (i : Nat) (r : Parameter ι ρ) :
    Parameter Place ρ :=
  ⟨placeIn holder home (.parameter i), r.name, r.type, r.upper⟩

/-- A property or an end in the place that a step leads to. -/
def settleProperty (holder : Path) (home : List String) (step : Nat → Step) (i : Nat)
    (p : Property ι ρ) : Property Place ρ :=
  ⟨placeIn holder home (step i), p.name, p.type, p.lower, p.upper, p.visibility, p.isStatic,
    p.aggregation⟩

/-- An operation in its place. -/
def settleOperation (holder : Path) (home : List String) (i : Nat) (o : Operation ι ρ) :
    Operation Place ρ :=
  ⟨placeIn holder home (.operation i), o.name, o.type, o.lower, o.upper,
    settleList (settleParameter (holder ++ [.operation i]) home) o.parameters,
    o.visibility, o.isStatic, o.isAbstract, o.description, o.content⟩

/-- The declarations of the type at a position. -/
def settleBody (path : Path) (home : List String) : Body ι ρ → Body Place ρ
  | .classBody c => .classBody
    ⟨c.isAbstract, settleList (settleProperty path home .property) c.properties,
      settleList (settleOperation path home) c.operations, c.superClasses, c.superInterfaces⟩
  | .interface c => .interface
    ⟨settleList (settleProperty path home .property) c.properties,
      settleList (settleOperation path home) c.operations, c.superInterfaces⟩
  | .datatype properties => .datatype (settleList (settleProperty path home .property) properties)
  | .primitive => .primitive
  | .enumeration literals => .enumeration literals
  | .association ends => .association (settleList (settleProperty path home .associationEnd) ends)

/-- A type in its place. -/
def settleType (holder : Path) (home : List String) (i : Nat) (t : Classifier ι ρ) :
    Classifier Place ρ :=
  ⟨placeIn holder home (.type i), t.name, settleBody (holder ++ [.type i]) home t.body⟩

mutual

/-- A package in its place. -/
def settlePackage (holder : Path) (home : List String) (i : Nat) : Package ι ρ → Package Place ρ
  | ⟨_, name, packages, types⟩ =>
    let path := holder ++ [.package i]
    let home := home ++ [name]
    ⟨placeIn holder home (.package i), name, settlePackages path home 0 packages,
      settleList (settleType path home) types⟩

/-- Packages in their places, the first one at a given position. -/
def settlePackages (holder : Path) (home : List String) (i : Nat) :
    List (Package ι ρ) → List (Package Place ρ)
  | [] => []
  | p :: rest => settlePackage holder home i p :: settlePackages holder home (i + 1) rest

end

/-- A model with every element in its place. -/
def settle (m : Model ι ρ) : Model Place ρ := ⟨settlePackages [] [] 0 m.packages⟩

/-! ## Targets -/

/-- The types of a list by name. -/
def scopeOf (types : List (Classifier Place ρ)) : Scope Target :=
  types.map fun t => (t.name, t.target)

/-- What the names in a model are looked up in. -/
def directoryOf (m : Model Place ρ) : Directory Target :=
  ⟨m.nameTree Classifier.target, scopeOf m.types⟩

/-- The link for a name that is used in a field inside the given packages. -/
def linkIn (d : Directory Target) (scopes : List (Scope Target)) (field : RefField) (name : String) :
    Link :=
  ⟨name, d.find? scopes field.kinds name⟩

mutual

/-- A package with its references linked, where `outer` are the packages around it. -/
def linkPackage (d : Directory Target) (outer : List (Scope Target)) :
    Package Place String → Package Place Link
  | ⟨place, name, packages, types⟩ =>
    let scopes := scopeOf types :: outer
    ⟨place, name, linkPackages d scopes packages, types.map (·.map id fun _ field _ => linkIn d scopes field)⟩

/-- Packages with their references linked. -/
def linkPackages (d : Directory Target) (outer : List (Scope Target)) :
    List (Package Place String) → List (Package Place Link)
  | [] => []
  | p :: rest => linkPackage d outer p :: linkPackages d outer rest

end

end Linking

/-- The linked form of a model. -/
def Declared.link (m : Declared) : Linked :=
  let settled := Linking.settle m
  ⟨⟨Linking.linkPackages (Linking.directoryOf settled) [] settled.packages⟩, []⟩

end ClassDiagram
