import ClassDiagram.Java.Page
import ClassDiagram.Script.Basic

/-!
# Scripts that write Java pages

A step names an action on a page and gives its arguments.  A row has the result, the lines so far and the
headers of the open blocks as they were given.
-/

set_option autoImplicit false

namespace ClassDiagram.Script

/-- A page, and the headers of its open blocks as they were given, the innermost first. -/
structure JavaSheet where
  page : Java.Page
  headers : List Document

namespace JavaSheet

/-- A sheet that has written nothing. -/
def start (indent : Indent) : JavaSheet := ⟨.start indent, []⟩

/-- The sheet with another page, on which no further blocks are open. -/
def withPage (s : JavaSheet) (page : Java.Page) : JavaSheet :=
  ⟨page, s.headers.drop (s.headers.length - page.openBlocks.length)⟩

/-- The signatures of the actions. -/
def signatures : List (String × Signature) :=
  [("line", ⟨"JavaWriter.line", [], 1⟩), ("blank", ⟨"JavaWriter.blank", [], 0⟩),
    ("start", ⟨"JavaWriter.start_block", ["header"], 0⟩), ("end", ⟨"JavaWriter.end_block", [], 0⟩),
    ("package", ⟨"JavaWriter.write_package", ["name"], 0⟩),
    ("imports", ⟨"JavaWriter.write_imports", ["imports"], 0⟩),
    ("javadoc", ⟨"JavaWriter.write_javadoc", ["text"], 1⟩),
    ("statements", ⟨"JavaWriter.write_statements", ["content"], 0⟩),
    ("end_doc", ⟨"JavaWriter.end_doc", [], 0⟩), ("value", ⟨"JavaWriter.getvalue", [], 0⟩)]

/-- A comment with the tags that a value gives. -/
def comment (w : Java.Page) (description tags : Document) : Java.Written := do
  discard (w.expect (Java.descriptionLines description))
  let tags ← w.expect (do (← tags.asParts).mapM lineText)
  w.comment description tags

/-- What an action with arguments that fit makes of a page. -/
def act (w : Java.Page) (action : String) (arguments : List Document) : Java.Written := do
  let first := arguments.headD (.text "")
  match action with
  | "line" => w.line (← w.expect (lineOf w.indent w.openBlocks.length first))
  | "blank" => return w.blank
  | "start" => w.openBlock (← w.expect (lineText first))
  | "end" => w.closeBlock
  | "package" => w.package (← w.expect (countedText first))
  | "imports" => w.imports (← w.expect first.asParts)
  | "javadoc" => comment w first (arguments.getD 1 (.list []))
  | "statements" => w.fragment first
  | _ => w.finish

/-- Takes an action with arguments. -/
def take (s : JavaSheet) (action : String) (arguments : List Document) :
    Except Misfit Document × JavaSheet :=
  match act s.page action arguments with
  | .error failure => (throw failure.error, s.withPage failure.page)
  | .ok page =>
    let after := s.withPage page
    let after := if action == "start" then { after with headers := arguments ++ after.headers } else after
    (return if action == "value" then .text page.text else .null, after)

/-- Takes a step: modifiers are put together, all else is an action on the page. -/
def step (s : JavaSheet) (step : Document) : Except Misfit Document × JavaSheet :=
  let arguments := step.itemsFrom 1
  let checked : Except Misfit (Option String) := do
    let name ← step.item 0
    if name == .text "modifiers" then return none
    let signature ← signatureOf signatures name
    signature.check arguments
    return some (← lineText name)
  match checked with
  | .error e => (throw e, s)
  | .ok none => ((joinWords arguments).map .text, s)
  | .ok (some action) => s.take action arguments

/-- What a row shows of a sheet. -/
def row (s : JavaSheet) (result : Document) : Document :=
  .list [result, .list (s.page.lines.inOrder.map .text), .list s.headers.reverse]

end JavaSheet

/-- The rows of a script that writes a Java page. -/
def writeJava (tell : Fault → Document) (indent : Indent) (steps : List Document) : List Document :=
  run (fun s step =>
    let (result, after) := s.step step
    (after.row (Result.told tell (orMisfit result)), after)) (JavaSheet.start indent) steps

end ClassDiagram.Script
