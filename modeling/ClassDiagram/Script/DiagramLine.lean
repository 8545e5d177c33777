import ClassDiagram.Diagram.Vocabulary
import ClassDiagram.Script.Basic

/-!
# Pieces of diagrams on demand

A call names a piece of a diagram and gives what it is made of: a bound, a multiplicity, the sign of an edge,
the line of an association, of a super type or of a member.
-/

set_option autoImplicit false

namespace ClassDiagram.Script

open Diagram (Vocabulary)

/-- The line of an association between two ends, with a label if it counts. -/
def associationLine (v : Vocabulary) (arguments : List Document) : Except Misfit Document := do
  let action := "pu_association"
  let needed := ["source", "source_mult", "glyph", "target_mult", "target"]
  if needed.length + 1 < arguments.length then throw (.repeated action "meta" false)
  match arguments with
  | source :: sourceBounds :: sign :: targetBounds :: target :: label =>
    return .text (v.style.association (← lineText source) (← lineText sourceBounds) (← lineText sign)
      (← lineText targetBounds) (← lineText target) (← countedText (label.headD .null)))
  | few => throw (.lacking action (needed.drop few.length))

/-- The fields that describe a member. -/
def memberFields : List String :=
  ["name", "type_name", "visibility", "is_static", "is_abstract", "cardinality"]

/-- The line of the member that a mapping describes. -/
def memberLine (v : Vocabulary) (description : Document) : Except Misfit Document := do
  let entries ← description.asEntries
  let field (name : String) : Document := (Document.fieldIn? name entries).getD .null
  let given := field "visibility"
  let visibility ← match given with
    | .null => pure none
    | word => (Vocabulary.visibilityOf word).map some
  if (Document.fieldIn? "meta" entries).isSome then
    throw (.repeated "gen.plantuml.writer.pu_member" "meta" true)
  let words ← entries.mapM fun (name, _) => lineText name
  if let some other := words.find? fun word => !memberFields.contains word then
    throw (.unexpected "pu_member" other)
  match Document.fieldIn? "name" entries with
  | none => throw (.lacking "pu_member" ["name"])
  | some name =>
    let (isStatic, isAbstract) := ((field "is_static").isGiven, (field "is_abstract").isGiven)
    v.memberFits visibility isStatic isAbstract name
    return .text (v.style.member (← lineText name) (← countedText (field "type_name")) visibility isStatic
      isAbstract (← countedText (field "cardinality")))

/-- The piece of a diagram that a call asks for. -/
def piece (v : Vocabulary) (call : Document) : Except Misfit Document := do
  match ← call.item 0 with
  | .text "bound" => v.bound (← call.item 1)
  | .text "multiplicity" => v.multiplicity (← call.item 1) (← call.item 2)
  | .text "cardinality" =>
    return .text (v.style.cardinality (.ofDocument (← call.item 1)) (.ofDocument (← call.item 2)))
  | .text "edge_glyph" =>
    let left ← Vocabulary.aggregationOf (← call.item 1)
    let right ← Vocabulary.aggregationOf (← call.item 2)
    return .text (v.style.edgeSign left right)
  | .text "association" => associationLine v (call.itemsFrom 1)
  | .text "generalization" =>
    return .text (v.style.generalization (← lineText (← call.item 1)) (← lineText (← call.item 2)))
  | .text "realization" =>
    return .text (v.style.realization (← lineText (← call.item 1)) (← lineText (← call.item 2)))
  | _ => memberLine v (← call.item 1)

end ClassDiagram.Script
