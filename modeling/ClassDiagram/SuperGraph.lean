import ClassDiagram.Linking

/-!
# The graph of super references

Inheritance as a directed graph over super references.  The graph may have cycles; a reference without
a target leads nowhere.  `returnIndex?` finds the first super reference of a node through which the node
reaches itself.
-/

set_option autoImplicit false

namespace ClassDiagram

/-- A graph: the nodes that are asked about, and for every node with super references what each of them
leads to. -/
structure SuperGraph (α : Type) where
  nodes : List α
  edges : List (α × List (Option α))
  deriving Repr

/-- A node that reaches itself, and the position of the first of its super references that leads back
to it. -/
structure CycleNode (α : Type) where
  node : α
  index : Nat
  deriving Repr, DecidableEq

namespace SuperGraph

variable {α : Type} [DecidableEq α]

/-- What the super references of a node lead to. -/
def supersAmong (edges : List (α × List (Option α))) (node : α) : List (Option α) :=
  (edges.lookup node).getD []

/-- What the super references of a node lead to. -/
def supersOf (g : SuperGraph α) (node : α) : List (Option α) := supersAmong g.edges node

/-- The number of super references of all nodes. -/
def referenceCount (edges : List (α × List (Option α))) : Nat := (edges.map (·.2.length)).foldr (· + ·) 0

/-- The edges without those that leave a node. -/
def without (edges : List (α × List (Option α))) (node : α) : List (α × List (Option α)) :=
  edges.filter fun entry => entry.1 != node

/-- Removing edges leaves no more references. -/
theorem referenceCount_without_le (edges : List (α × List (Option α))) (node : α) :
    referenceCount (without edges node) ≤ referenceCount edges := by
  induction edges with
  | nil => simp [without, referenceCount]
  | cons entry rest ih =>
    simp only [referenceCount, without, List.filter_cons] at ih ⊢
    split <;> simp <;> omega

/-- Removing the edges that leave a node removes at least the references found for it. -/
theorem referenceCount_without {edges : List (α × List (Option α))} {node : α}
    {supers : List (Option α)} (found : edges.lookup node = some supers) :
    referenceCount (without edges node) + supers.length ≤ referenceCount edges := by
  induction edges with
  | nil => simp at found
  | cons entry rest ih =>
    obtain ⟨n, s⟩ := entry
    by_cases same : node = n
    · subst same
      simp only [List.lookup_cons, BEq.rfl, Option.some.injEq] at found
      subst found
      have below := referenceCount_without_le rest node
      simp only [referenceCount, without, List.filter_cons, List.map_cons, List.foldr_cons] at below ⊢
      simp
      omega
    · have other : (node == n) = false := by simp [same]
      have distinct : (n != node) = true := by simp [Ne.symm same]
      simp only [List.lookup_cons, other] at found
      have below := ih found
      simp only [referenceCount, without, List.filter_cons, distinct, if_true, List.map_cons,
        List.foldr_cons] at below ⊢
      omega

/-- Follows references to types, each with the position of the first one of its path, until one leads
to `node`.  The edges of a type are followed once. -/
def entryAmong (node : α) (edges : List (α × List (Option α))) (todo : List (Option α × Nat)) :
    Option Nat :=
  match todo with
  | [] => none
  | (none, _) :: rest => entryAmong node edges rest
  | (some next, origin) :: rest =>
    if next = node then some origin
    else
      match _found : edges.lookup next with
      | none => entryAmong node edges rest
      | some supers =>
        entryAmong node (without edges next) (supers.map (·, origin) ++ rest)
termination_by referenceCount edges + todo.length
decreasing_by
  · simp
  · simp
  · have := referenceCount_without _found
    simp only [List.length_append, List.length_map, List.length_cons]
    omega

/-- Follows references to types until one leads to `node`, and gives the types whose own references are
looked at on the way.  They come as in `entryAmong`, each once. -/
def readAmong (node : α) (edges : List (α × List (Option α))) (todo : List (Option α)) : List α :=
  match todo with
  | [] => []
  | none :: rest => readAmong node edges rest
  | some next :: rest =>
    if next = node then []
    else
      match _found : edges.lookup next with
      | none => readAmong node edges rest
      | some supers => next :: readAmong node (without edges next) (supers ++ rest)
termination_by referenceCount edges + todo.length
decreasing_by
  · simp
  · simp
  · have := referenceCount_without _found
    simp only [List.length_append, List.length_cons]
    omega

/-- The types whose super references are looked at to see whether a node reaches itself. -/
def nodesRead (g : SuperGraph α) (node : α) : List α :=
  node :: readAmong node g.edges (g.supersOf node)

/-- The position of the first super reference of a node through which it reaches itself. -/
def returnIndex? (g : SuperGraph α) (node : α) : Option Nat :=
  entryAmong node g.edges (g.supersOf node).zipIdx

/-- The nodes that are on a cycle. -/
def cycleNodes (g : SuperGraph α) : List (CycleNode α) :=
  g.nodes.filterMap fun node => (g.returnIndex? node).map (⟨node, ·⟩)

end SuperGraph

namespace Linked

/-- The types of a linked model and those outside it. -/
def everyType (m : Linked) : List LinkedType := m.model.types ++ m.strays

/-- The edges that one field of the types makes. -/
def edges (m : Linked) (field : RefField) : List (Key × List (Option Key)) :=
  m.everyType.map fun t => (t.key, (t.supersIn field).map fun l => l.target.map (·.key))

/-- The graph of the given nodes over one field. -/
def graph (m : Linked) (nodes : List Key) (field : RefField) : SuperGraph Key :=
  ⟨nodes, m.edges field⟩

/-- The classes and their super classes. -/
def superClassGraph (m : Linked) : SuperGraph Key :=
  m.graph ((m.model.ofKind .classKind).map (·.key)) .superClasses

/-- The interfaces and their super interfaces. -/
def superInterfaceGraph (m : Linked) : SuperGraph Key :=
  m.graph ((m.model.ofKind .interface).map (·.key)) .superInterfaces

end Linked

end ClassDiagram
