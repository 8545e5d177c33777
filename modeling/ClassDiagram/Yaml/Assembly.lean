import ClassDiagram.Yaml.Node.Merging
import ClassDiagram.Yaml.ScalarValue

/-!
# Collections from nodes

The values of nodes, where collections are numbered so that one may hold itself.  The value of a scalar is
formed when its node is met.  A collection is made empty when its node is met and filled later, in the order
in which the collections were met; the faults of a text are found in this order.  A node that is met again is
the value that it was before.
-/

set_option autoImplicit false

namespace ClassDiagram.Yaml

/-- The value of a node: a single value, or a collection by its number. -/
inductive Part where
  | single (value : Document)
  | collection (number : Nat)
  deriving Repr, BEq

/-- A collection of parts. -/
inductive Collection where
  | list (items : List Part)
  | pairs (items : List (Part × Part))
  | set (keys : List Document)
  | map (entries : List (Document × Part))
  deriving Repr, BEq

/-- The empty collection that a node of a type stands for, if the type is one of collections. -/
def Collection.empty? : Tag → Option Collection
  | .seq => some (.list [])
  | .omap => some (.pairs [])
  | .pairs => some (.pairs [])
  | .set => some (.set [])
  | .map => some (.map [])
  | _ => none

/-- The values of nodes so far: the graph, the parts by their nodes, the collections by their numbers and, the
last met first, the nodes whose collections are still empty. -/
structure Assembly where
  graph : Graph
  mergeSteps : Nat
  parts : Array (Option Part)
  collections : Array Collection
  waiting : List (NodeId × Nat)

namespace Assembly

/-- The values of no nodes. -/
def start (graph : Graph) : Assembly :=
  ⟨graph, graph.mergeSteps, Array.replicate graph.nodes.size none, #[], []⟩

/-- The text of a mapping where a single value is asked for: that of the first key marked as its value.  There
is none in a list.  A mapping that is asked for again after `steps` others is its own value. -/
def singleText (g : Graph) : Nat → NodeId → Except Fault String
  | 0, _ => throw .tooDeep
  | steps + 1, id =>
    match g.content id with
    | .scalar text => return text
    | .sequence _ => throw .malformed
    | .mapping entries =>
      match entries.find? fun (key, _) => g.tag key == .value with
      | some (_, value) => singleText g steps value
      | none => throw .malformed

/-- The value of a node of a type without collections. -/
def singleValue (g : Graph) (id : NodeId) : Except Fault Document := do
  let tag := g.tag id
  if let .other _ := tag then throw .malformed
  let text ← singleText g (g.nodes.size + 1) id
  if let (.timestamp, .mapping _) := (tag, g.content id) then throw (.value .mappingAsTimestamp)
  scalarValue tag text

/-- Keeps the value of a node. -/
def keep (a : Assembly) (id : NodeId) (part : Part) : Assembly :=
  { a with parts := a.parts.setIfInBounds id (some part) }

/-- The value of a node. -/
def meet (a : Assembly) (id : NodeId) : Except Fault (Part × Assembly) :=
  match a.parts.getD id none with
  | some part => return (part, a)
  | none =>
    match Collection.empty? (a.graph.tag id) with
    | some collection =>
      let number := a.collections.size
      let part := Part.collection number
      return (part, { a.keep id part with
        collections := a.collections.push collection
        waiting := (id, number) :: a.waiting })
    | none => do
      let value ← singleValue a.graph id
      return (.single value, a.keep id (.single value))

/-- The values of nodes in turn. -/
def meetAll (a : Assembly) : List NodeId → Except Fault (List Part × Assembly)
  | [] => return ([], a)
  | id :: rest => do
    let (part, a) ← a.meet id
    let (parts, a) ← a.meetAll rest
    return (part :: parts, a)

/-- The key and the value of the only entry of a mapping. -/
def meetPair (a : Assembly) (id : NodeId) : Except Fault ((Part × Part) × Assembly) :=
  match a.graph.content id with
  | .mapping [(key, value)] => do
    let (key, a) ← a.meet key
    let (value, a) ← a.meet value
    return ((key, value), a)
  | _ => throw .malformed

/-- The pairs of mappings with one entry each. -/
def meetPairs (a : Assembly) : List NodeId → Except Fault (List (Part × Part) × Assembly)
  | [] => return ([], a)
  | id :: rest => do
    let (pair, a) ← a.meetPair id
    let (pairs, a) ← a.meetPairs rest
    return (pair :: pairs, a)

/-! ## Entries -/

/-- A key with the node that it comes from, where keys of equal value from other nodes are other keys. -/
structure Key where
  value : Document
  apart : Option NodeId

/-- The key that a node gives: its single value.  What is no number is a key of its own node unless it is
given by its word. -/
def keyOf (g : Graph) (id : NodeId) : Part → Except Fault Key
  | .collection _ => throw .malformed
  | .single value =>
    match value, g.content id with
    | .float .notANumber, .scalar text =>
      return ⟨value, if isNotByWord text.toList then some id else none⟩
    | _, _ => if value.isKey then return ⟨value, none⟩ else throw .malformed

/-- Whether two keys are one. -/
def Key.isSame (a b : Key) : Bool := a.apart == b.apart && a.value.sameKey b.value

/-- Sets the value at a key: in the place of the same key if there is one, else at the end. -/
def insertPart (key : Key) (value : Part) : List (Key × Part) → List (Key × Part)
  | [] => [(key, value)]
  | (k, v) :: rest =>
    if k.isSame key then (k, value) :: rest else (k, v) :: insertPart key value rest

/-- The entries of a mapping after those read so far. -/
def meetEntries (a : Assembly) (read : List (Key × Part)) :
    List (NodeId × NodeId) → Except Fault (List (Key × Part) × Assembly)
  | [] => return (read, a)
  | (key, value) :: rest => do
    let (keyPart, a) ← a.meet key
    let k ← keyOf a.graph key keyPart
    let (part, a) ← a.meet value
    a.meetEntries (insertPart k part read) rest

/-- The entries of a mapping with all that it merges. -/
def meetMapping (a : Assembly) (id : NodeId) : Except Fault (List (Key × Part) × Assembly) := do
  let graph ← a.graph.merge a.mergeSteps id
  { a with graph }.meetEntries [] ((graph.entries? id).getD [])

/-! ## Filling -/

/-- The full collection of a node and the values of the nodes that it holds. -/
def filled (a : Assembly) (id : NodeId) : Collection → Except Fault (Collection × Assembly)
  | .list _ =>
    match a.graph.content id with
    | .sequence items => (a.meetAll items).map fun (parts, a) => (.list parts, a)
    | _ => throw .malformed
  | .pairs _ =>
    match a.graph.content id with
    | .sequence items => (a.meetPairs items).map fun (pairs, a) => (.pairs pairs, a)
    | _ => throw .malformed
  | .set _ => (a.meetMapping id).map fun (entries, a) =>
      (.set (entries.map fun (key, _) => key.value), a)
  | .map _ => (a.meetMapping id).map fun (entries, a) =>
      (.map (entries.map fun (key, part) => (key.value, part)), a)

/-- Fills the collection with a number from its node. -/
def fill (a : Assembly) (id : NodeId) (number : Nat) : Except Fault Assembly := do
  let (collection, a) ← a.filled id (a.collections.getD number (.list []))
  return { a with collections := a.collections.setIfInBounds number collection }

/-- Fills collections in turn. -/
def fillAll (a : Assembly) : List (NodeId × Nat) → Except Fault Assembly
  | [] => return a
  | (id, number) :: rest => do
    let a ← a.fill id number
    a.fillAll rest

/-- Fills the collections that wait, then those that were met meanwhile, until none waits.  There are at
most as many rounds as nodes. -/
def finish : Nat → Assembly → Except Fault Assembly
  | 0, a => return a
  | rounds + 1, a =>
    if a.waiting.isEmpty then return a
    else do
      let a ← { a with waiting := [] }.fillAll a.waiting.reverse
      finish rounds a

/-- The value of a node of a graph, with all collections filled. -/
def ofGraph (graph : Graph) (root : NodeId) : Except Fault (Part × Assembly) := do
  let (part, a) ← (start graph).meet root
  let a ← finish (graph.nodes.size + 1) a
  return (part, a)

end Assembly

end ClassDiagram.Yaml
