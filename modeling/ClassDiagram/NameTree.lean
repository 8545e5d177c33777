import ClassDiagram.Model.Traversal
import ClassDiagram.Name

/-!
# The index of names

Names and what they lead to.  An index holds the types of a model by the names of their packages;
packages of one name side by side share one node of it.  A qualified name is looked up in the index
from its root, a simple name in the packages around the place where it is used, the nearest first, and
then in the whole model.
-/

set_option autoImplicit false

namespace ClassDiagram

/-- A node of the index: the packages of one name, with the nodes of the packages in them and their
types by name, both in the order of first appearance. -/
structure NameTree (α : Type) where
  name : String
  children : List (NameTree α)
  types : List (String × List α)
  deriving Repr

namespace NameTree

variable {α : Type}

/-- A node without contents. -/
def empty (name : String) : NameTree α := ⟨name, [], []⟩

/-- The child with a name. -/
def child? (tree : NameTree α) (name : String) : Option (NameTree α) :=
  tree.children.find? (·.name == name)

/-- Puts a child in the place of the one with its name, or at the end. -/
def setChild (tree : NameTree α) (child : NameTree α) : NameTree α :=
  if (tree.child? child.name).isSome then
    { tree with children := tree.children.map fun c => if c.name == child.name then child else c }
  else { tree with children := tree.children ++ [child] }

/-- Adds an entry under a name, after those that have it. -/
def addNamed (name : String) (entry : α) : List (String × List α) → List (String × List α)
  | [] => [(name, [entry])]
  | (n, entries) :: rest =>
    if n = name then (n, entries ++ [entry]) :: rest else (n, entries) :: addNamed name entry rest

/-- Adds types to a node. -/
def addTypes (tree : NameTree α) (types : List (String × α)) : NameTree α :=
  { tree with types := types.foldl (fun found (name, entry) => addNamed name entry found) tree.types }

/-- The types of a node with a name. -/
def typesNamed (tree : NameTree α) (name : String) : List α := (tree.types.lookup name).getD []

/-- The node that names lead to. -/
def descend (tree : NameTree α) : List String → Option (NameTree α)
  | [] => some tree
  | name :: rest =>
    match tree.child? name with
    | none => none
    | some child => child.descend rest

end NameTree

variable {ι ρ α : Type}

mutual

/-- Adds a package to the node of its container: its types first, then the packages in it. -/
def NameTree.addPackage (entry : Classifier ι ρ → α) (tree : NameTree α) :
    Package ι ρ → NameTree α
  | ⟨_, name, packages, types⟩ =>
    let child := ((tree.child? name).getD (.empty name)).addTypes (types.map fun t => (t.name, entry t))
    tree.setChild (addPackages entry child packages)

/-- Adds packages to the node of their container. -/
def NameTree.addPackages (entry : Classifier ι ρ → α) (tree : NameTree α) :
    List (Package ι ρ) → NameTree α
  | [] => tree
  | p :: rest => addPackages entry (addPackage entry tree p) rest

end

/-- The index of a model, with an entry for each type. -/
def Model.nameTree (m : Model ι ρ) (entry : Classifier ι ρ → α) : NameTree α :=
  NameTree.addPackages entry (.empty "__root__") m.packages

/-- What a name may lead to. -/
class HasKind (α : Type) where
  /-- The kind of the type that an entry stands for. -/
  kindOf : α → Kind

/-- The first entry of one of the kinds. -/
def firstOf [HasKind α] (kinds : List Kind) (entries : List α) : Option α :=
  entries.find? fun entry => kinds.contains (HasKind.kindOf entry)

/-- The type that a qualified name leads to from the root of the index. -/
def NameTree.findQualified [HasKind α] (tree : NameTree α) (kinds : List Kind) (name : String) :
    Option α :=
  let parts := nameSegments name
  match parts.getLast? with
  | none => none
  | some last =>
    match tree.descend parts.dropLast with
    | none => none
    | some node => firstOf kinds (node.typesNamed last)

/-- The types of a package, or of a whole model, by name. -/
abbrev Scope (α : Type) := List (String × α)

/-- The first type of a scope with a name and of one of the kinds. -/
def Scope.named? [HasKind α] (scope : Scope α) (kinds : List Kind) (name : String) : Option α :=
  (List.find? (fun (n, entry) => n == name && kinds.contains (HasKind.kindOf entry)) scope).map
    Prod.snd

/-- The type that a simple name leads to: that of the nearest scope that has one. -/
def findSimple [HasKind α] (scopes : List (Scope α)) (kinds : List Kind) (name : String) :
    Option α :=
  scopes.findSome? fun scope => scope.named? kinds name

/-- Whether a name has several segments, so that it is looked up from the root. -/
def isQualified (name : String) : Bool := 1 < (nameSegments name).length

/-- What the names in a model are looked up in: its index and all its types. -/
structure Directory (α : Type) where
  tree : NameTree α
  everything : Scope α

/-- The type that a name leads to, where `scopes` are the packages around the place where it is used, the
nearest first. -/
def Directory.find? [HasKind α] (d : Directory α) (scopes : List (Scope α)) (kinds : List Kind)
    (name : String) : Option α :=
  if name.isEmpty then none
  else if isQualified name then d.tree.findQualified kinds name
  else findSimple (scopes ++ [d.everything]) kinds name

end ClassDiagram
