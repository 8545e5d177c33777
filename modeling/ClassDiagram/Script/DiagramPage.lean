import ClassDiagram.Diagram.Vocabulary
import ClassDiagram.Script.Basic

/-!
# Scripts that write diagrams

A step names an action on the page of a diagram and gives its arguments.  A row has the result, the lines so
far and the depth.
-/

set_option autoImplicit false

namespace ClassDiagram.Script

open Diagram (Vocabulary Page)

/-- The signatures of the actions on the page of a diagram. -/
def pageSignatures : List (String × Signature) :=
  [("line", ⟨"PlantUmlWriter.line", [], 1⟩), ("blank", ⟨"PlantUmlWriter.blank", [], 0⟩),
    ("start", ⟨"PlantUmlWriter.start_box", ["header"], 0⟩),
    ("end", ⟨"PlantUmlWriter.end_box", [], 0⟩), ("value", ⟨"PlantUmlWriter.getvalue", [], 0⟩)]

/-- What an action with arguments that fit makes of a page. -/
def actOnPage (v : Vocabulary) (w : Page) (action : String) (arguments : List Document) :
    Diagram.Written := do
  let first := arguments.headD (.text "")
  match action with
  | "line" => w.line (← w.expect (lineOf w.indent w.depth.toNat first))
  | "blank" =>
    w.expect (v.blankFits w)
    return w.blank
  | "start" => w.openBox (← w.expect (lineText first))
  | "end" => w.closeBox
  | _ =>
    w.trimmed.expect (v.textFits w)
    return w.trimmed

/-- Takes a step on a page. -/
def stepOnPage (v : Vocabulary) (w : Page) (step : Document) : Except Misfit Document × Page :=
  let arguments := step.itemsFrom 1
  let checked : Except Misfit String := do
    let name ← step.item 0
    (← signatureOf pageSignatures name).check arguments
    lineText name
  match checked with
  | .error e => (throw e, w)
  | .ok action =>
    match actOnPage v w action arguments with
    | .error failure => (throw failure.error, failure.page)
    | .ok after => (return if action == "value" then .text w.text else .null, after)

/-- The rows of a script that writes a diagram. -/
def writeDiagram (tell : Fault → Document) (v : Vocabulary) (indent : Indent) (steps : List Document) :
    List Document :=
  run (fun w step =>
    let (result, after) := stepOnPage v w step
    (.list [Result.told tell (orMisfit result), .list (v.linesOf after), .int after.depth], after))
    (Page.start indent v.style) steps

end ClassDiagram.Script
