import ClassDiagram.Diagram.Style
import ClassDiagram.Layout

/-!
# The page of a diagram

Layout of a diagram: lines between a start and an end mark, indented inside boxes.
-/

set_option autoImplicit false

namespace ClassDiagram.Diagram

/-- A page: the indentation of one box, the words and signs, the lines so far and the depth, which is
negative when more boxes were closed than opened. -/
structure Page where
  indent : Indent
  style : Style
  lines : WrittenLines
  depth : Int
  deriving Repr

/-- What stopped the writing of a page, and the page as far as it was written. -/
structure Failure where
  error : Misfit
  page : Page
  deriving Repr

/-- Writing gives the next state of a page or fails. -/
abbrev Written := Except Failure Page

namespace Page

/-- A page that has written the start mark. -/
def start (indent : Indent) (style : Style) : Page := ⟨indent, style, [style.start], 0⟩

/-- The page on which something was to be written next, as a failure if that cannot be formed. -/
def expect {α : Type} (w : Page) : Except Misfit α → Except Failure α
  | .ok a => return a
  | .error e => throw ⟨e, w⟩

/-- Adds a line inside the open boxes. -/
def line (w : Page) (text : String) : Written := do
  let line ← w.expect (indentedLine w.indent w.depth.toNat text)
  return { w with lines := line :: w.lines }

/-- Adds lines inside the open boxes. -/
def addLines (w : Page) (texts : List String) : Written := texts.foldlM line w

/-- Adds an empty line where one is in order. -/
def blank (w : Page) : Page := { w with lines := w.lines.blank }

/-- Opens a box. -/
def openBox (w : Page) (header : String) : Written := do
  let w ← w.line (header ++ " \x7b")
  return { w with depth := w.depth + 1 }

/-- Closes a box. -/
def closeBox (w : Page) : Written := line { w with depth := w.depth - 1 } "\x7d"

/-- A box with its lines, or its header alone when it has none. -/
def box (w : Page) (header : String) (texts : List String) : Written :=
  if texts.isEmpty then w.line header
  else do
    let w ← w.openBox header
    let w ← w.addLines texts
    w.closeBox

/-- The page without the empty lines at the end. -/
def trimmed (w : Page) : Page := { w with lines := w.lines.dropBlanks }

/-- The text with the end mark; empty lines before it are dropped. -/
def text (w : Page) : String := textOfLines (w.trimmed.lines.inOrder ++ [w.style.finish])

end Page

end ClassDiagram.Diagram
