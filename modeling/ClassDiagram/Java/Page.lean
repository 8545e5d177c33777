import ClassDiagram.Document.Mapping
import ClassDiagram.Document.Order
import ClassDiagram.Java.Code
import ClassDiagram.Layout
import ClassDiagram.Text.Lines

/-!
# The page of a compilation unit

Layout of Java code: lines are indented by the blocks around them, a block ends with a brace under its
header, and the code is laid out from a tree by `Page.write`.
-/

set_option autoImplicit false

namespace ClassDiagram.Java

/-- A page: the indentation of one block, the lines so far and the headers of the open blocks, the
innermost first. -/
structure Page where
  indent : Indent
  lines : WrittenLines
  openBlocks : List String
  deriving Repr

/-- What stopped the writing of a page, and the page as far as it was written. -/
structure Failure where
  error : Misfit
  page : Page
  deriving Repr

/-- Writing gives the next state of a page or fails. -/
abbrev Written := Except Failure Page

/-- White space between octets. -/
def isBlankOctet (n : Nat) : Bool := n == 0x20 || (0x9 ≤ n && n ≤ 0xd)

/-- The lines of a row of octets, where `line` holds what was read of the current one, the last octet
first. -/
def octetLinesFrom (line : List Nat) : List Nat → List (List Nat)
  | [] => if line.isEmpty then [] else [line.reverse]
  | 0xd :: 0xa :: rest => line.reverse :: octetLinesFrom [] rest
  | n :: rest =>
    if n == 0xa || n == 0xd then line.reverse :: octetLinesFrom [] rest
    else octetLinesFrom (n :: line) rest

/-- The lines of a description without the white space around it. -/
def descriptionLines (description : Document) : Except Misfit (List String) :=
  if !description.isGiven then return []
  else
    match description with
    | .text text =>
      return (Text.linesOf (Text.trimBy Text.isBlank text.toList)).map String.ofList
    | .bytes octets =>
      let trimmed := ((octets.dropWhile isBlankOctet).reverse.dropWhile isBlankOctet).reverse
      return (octetLinesFrom [] trimmed).map octetsText
    | other => throw (.noField other.fullKindName "strip")

/-- The body of a comment: the description, an empty line if both are there, and the tags. -/
def commentBody (description tags : List String) : List String :=
  description ++ (if !description.isEmpty && !tags.isEmpty then [""] else []) ++ tags

/-- The lines of a comment. -/
def commentLines (body : List String) : List String :=
  "/**" :: body.map (fun entry => Text.trimRight (" * " ++ entry)) ++ [" */"]

/-- The lines of a text written by hand, without the line feeds around it and the margin that they
share. -/
def fragmentLines (content : List Char) : List String :=
  let lines := Text.linesOf (Text.dedent (Text.trimBy (· == '\n') content))
  lines.map fun line => String.ofList (Text.trimRightBy Text.isBlank line)

/-- The lines of a content. -/
def contentLines (content : Document) : Except Misfit (List String) :=
  match content with
  | .text text => return fragmentLines text.toList
  | .bytes _ => throw .octets
  | other => throw (.noField other.fullKindName "strip")

/-- Adds a name to names unless it is there. -/
def addName (names : List Document) (name : Document) : Except Misfit (List Document) := do
  let key ← name.asKey
  return if names.any (·.sameKey key) then names else names ++ [key]

/-- Names in order, each once. -/
def sortedNames (names : List Document) : Except Misfit (List Document) := do
  Sorting.sort Document.isBelow (← names.foldlM addName [])

namespace Page

/-- A page that has written nothing. -/
def start (indent : Indent) : Page := ⟨indent, [], []⟩

/-- The page on which something was to be written next, as a failure if that cannot be formed. -/
def expect {α : Type} (w : Page) : Except Misfit α → Except Failure α
  | .ok a => return a
  | .error e => throw ⟨e, w⟩

/-- Adds a line inside the open blocks. -/
def line (w : Page) (text : String) : Written := do
  let line ← w.expect (indentedLine w.indent w.openBlocks.length text)
  return { w with lines := line :: w.lines }

/-- Adds lines inside the open blocks. -/
def addLines (w : Page) (texts : List String) : Written := texts.foldlM line w

/-- Adds an empty line where one is in order. -/
def blank (w : Page) : Page := { w with lines := w.lines.blank }

/-- Opens a block. -/
def openBlock (w : Page) (header : String) : Written := do
  let w ← w.line (header ++ " \x7b")
  return { w with openBlocks := header :: w.openBlocks }

/-- Closes the innermost block; its brace stands under its header and not after an empty line. -/
def closeBlock (w : Page) : Written :=
  match w.openBlocks with
  | [] => throw ⟨.noOpenBlock, w⟩
  | _ :: outer => line { w with openBlocks := outer, lines := w.lines.dropBlanks } "\x7d"

/-- Names the package; the root package has no name. -/
def package (w : Page) (name : String) : Written :=
  if name.isEmpty then return w
  else do
    let w ← w.line s!"package {name};"
    return w.blank

/-- Adds the imports in order, each once. -/
def imports (w : Page) (names : List Document) : Written := do
  let sorted ← w.expect (sortedNames names)
  let w ← sorted.foldlM (fun w name => do w.line s!"import {← w.expect (lineText name)};") w
  return if names.isEmpty then w else w.blank

/-- Adds a comment. -/
def comment (w : Page) (description : Document) (tags : List String) : Written := do
  let description ← w.expect (descriptionLines description)
  w.addLines (commentLines (commentBody description tags))

/-- Adds lines written by hand. -/
def fragment (w : Page) (content : Document) : Written := do
  w.addLines (← w.expect (contentLines content))

/-- Closes the given number of blocks. -/
def closeBlocks : Nat → Page → Written
  | 0, w => return w
  | n + 1, w => do closeBlocks n (← w.closeBlock)

/-- Closes all open blocks. -/
def finish (w : Page) : Written := closeBlocks w.openBlocks.length w

/-- The text written so far. -/
def text (w : Page) : String := textOfLines w.lines.inOrder

mutual

/-- Lays out a piece of code. -/
def write (w : Page) : Code → Written
  | .line text => w.line text
  | .blank => return w.blank
  | .block header body => do
    let w ← w.openBlock header
    let w ← w.writeAll body
    w.closeBlock
  | .comment description tags => w.comment description tags
  | .fragment content => w.fragment content
  | .unwritable error => throw ⟨error, w⟩

/-- Lays out pieces of code one after the other. -/
def writeAll (w : Page) : List Code → Written
  | [] => return w
  | code :: rest => do
    let w ← w.write code
    w.writeAll rest

end

end Page

end ClassDiagram.Java
