import ClassDiagram.Document.SetOrder
import ClassDiagram.Yaml.Assembly

/-!
# Documents from collections

The document of a part, with the collections in it unfolded.  A collection that is met inside itself is left
as a reference, so the unfolding ends; every collection from which such a reference leads outward or to itself
lies on a cycle and becomes a knot.  The document of a collection depends on what is around it only as far as
it is referred to or would have been met again, so it is made once for all places that agree on that.

Sets of collections are kept as numbers, one bit for each.
-/

set_option autoImplicit false

namespace ClassDiagram.Yaml

/-- A set of collections. -/
abbrev Numbers := Nat

namespace Numbers

/-- The set of one collection. -/
def only (number : Nat) : Numbers := 1 <<< number

/-- Whether two sets have nothing in common. -/
def isApart (a b : Numbers) : Bool := a &&& b == 0

/-- Whether all of a set is in another one. -/
def isWithin (a b : Numbers) : Bool := a &&& b == a

/-- The set without a collection. -/
def without (a : Numbers) (number : Nat) : Numbers := if a.testBit number then a - only number else a

end Numbers

/-- A document, the collections around it to which it refers, and those on cycles that were met in it. -/
structure Unfolded where
  document : Document
  outward : Numbers
  met : Numbers
  deriving Repr

namespace Unfolded

/-- A document of parts. -/
def ofParts (us : List Unfolded) (document : Document) : Unfolded :=
  ⟨document, us.foldl (fun n u => n ||| u.outward) 0, us.foldl (fun n u => n ||| u.met) 0⟩

/-- The document of a collection with its number: a knot if something in it refers to it or outward. -/
def close (number : Nat) (u : Unfolded) : Unfolded :=
  if u.outward == 0 then u
  else ⟨.knot number u.document, u.outward.without number, u.met ||| .only number⟩

/-- Whether the document is the same inside the collections `around`. -/
def holdsInside (u : Unfolded) (around : Numbers) : Bool :=
  u.outward.isWithin around && u.met.isApart around

end Unfolded

/-- The documents that were made of collections, by the numbers of the collections. -/
abbrev Known := Array (List Unfolded)

/-- The document of a part inside the collections `around`. -/
def unfold (cs : Array Collection) : Nat → Numbers → Part → StateM Known Unfolded
  | _, _, .single value => return ⟨value, 0, 0⟩
  | 0, _, .collection number => return ⟨.again number, .only number, 0⟩
  | fuel + 1, around, .collection number => do
    if around.testBit number then return ⟨.again number, .only number, 0⟩
    if let some known := ((← get).getD number []).find? (·.holdsInside around) then return known
    let inside := around ||| .only number
    let body : Unfolded ← match cs.getD number (.list []) with
      | .list items => do
        let us ← items.mapM (unfold cs fuel inside)
        pure (Unfolded.ofParts us (.list (us.map (·.document))))
      | .pairs items => do
        let us ← items.mapM fun (a, b) => do
          let a ← unfold cs fuel inside a
          let b ← unfold cs fuel inside b
          pure (Unfolded.ofParts [a, b] (.pair a.document b.document))
        pure (Unfolded.ofParts us (.list (us.map (·.document))))
      | .set keys => pure ⟨.set (Document.setOrder keys), 0, 0⟩
      | .map entries => do
        let us ← entries.mapM fun (_, part) => unfold cs fuel inside part
        pure (Unfolded.ofParts us (.map (entries.zipWith (fun (key, _) u => (key, u.document)) us)))
    let closed := body.close number
    modify fun known => known.modify number (closed :: ·)
    return closed

/-- The document of a part of collections. -/
def documentOf (cs : Array Collection) (part : Part) : Document :=
  ((unfold cs (cs.size + 1) 0 part).run (Array.replicate cs.size [])).1.document

end ClassDiagram.Yaml
