import ClassDiagram.Yaml.Fault
import ClassDiagram.Yaml.Node

/-!
# Merging

A mapping takes the entries of the mappings that its merge keys name, and keeps its own entries after them,
so that its own ones count.  Each merge key is taken out of its mapping before the mappings that it names are
merged in turn; a mapping may therefore name itself, and every merge key is worked off once.
-/

set_option autoImplicit false

namespace ClassDiagram.Yaml.Graph

/-- The first merge key among entries taken out: the node that it names and the other entries. -/
def takeMerge? (g : Graph) :
    List (NodeId × NodeId) → Option (NodeId × List (NodeId × NodeId))
  | [] => none
  | (key, value) :: rest =>
    if g.tag key == .merge then some (value, rest)
    else (g.takeMerge? rest).map fun (source, others) => (source, (key, value) :: others)

/-- Makes a text of a key that is marked as the value of its mapping. -/
def keyAsText (g : Graph) (key : NodeId) : Graph :=
  if g.tag key == .value then g.setTag key .str else g

/-- Puts merged entries before the own ones of a mapping, which has no merge keys left. -/
def finishMerge (g : Graph) (id : NodeId) (own merged : List (NodeId × NodeId)) : Graph :=
  (own.foldl (fun g (key, _) => g.keyAsText key) g).setContent id (.mapping (merged ++ own))

mutual

/-- Works off the merge keys of a mapping, where `merged` holds the entries found so far. -/
def mergeInto (id : NodeId) (merged : List (NodeId × NodeId)) (g : Graph) :
    Nat → Except Fault Graph
  | 0 => throw .malformed
  | fuel + 1 =>
    match g.entries? id with
    | none => throw .malformed
    | some entries =>
      match g.takeMerge? entries with
      | none => return g.finishMerge id entries merged
      | some (source, others) => do
        let (found, g) ← sourceEntries source (g.setContent id (.mapping others)) fuel
        mergeInto id (merged ++ found) g fuel

/-- The entries of a node that a merge key names: those of a mapping, or of a list of mappings with the
first one last, so that it has the highest rank. -/
def sourceEntries (source : NodeId) (g : Graph) : Nat → Except Fault (List (NodeId × NodeId) × Graph)
  | 0 => throw .malformed
  | fuel + 1 =>
    match g.content source with
    | .scalar _ => throw .malformed
    | .mapping _ => do
      let g ← mergeInto source [] g fuel
      return ((g.entries? source).getD [], g)
    | .sequence items => do
      let (parts, g) ← items.foldlM (fun (parts, g) item => do
        let g ← mergeInto item [] g fuel
        return ((g.entries? item).getD [] :: parts, g)) ([], g)
      return (parts.flatten, g)

end

/-- Steps that suffice for all merges of a graph: two for each merge key. -/
def mergeSteps (g : Graph) : Nat := 2 * g.entryCount + 3

/-- The graph after the merges of a mapping and of those that it merges are done. -/
def merge (g : Graph) (steps : Nat) (id : NodeId) : Except Fault Graph := mergeInto id [] g steps

end ClassDiagram.Yaml.Graph
