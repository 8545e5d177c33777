import ClassDiagram.Text.Blank

/-!
# Lines of a text

Splitting at every line boundary of Unicode, splitting at line feeds alone, and removing the margin that
all lines share.
-/

set_option autoImplicit false

namespace ClassDiagram.Text

/-- The line boundaries of Unicode: line feed, carriage return, vertical tab, form feed, the
file, group and record separators, next line, and the line and paragraph separators. -/
def isLineBoundary (c : Char) : Bool :=
  let code := c.toNat
  (0xa ≤ code && code ≤ 0xd) || (0x1c ≤ code && code ≤ 0x1e) || code == 0x85 ||
    code == 0x2028 || code == 0x2029

/-- The lines of a text, where `line` holds what was read of the current one, last character
first.  A carriage return and a line feed are one boundary, and a boundary at the end opens no
further line. -/
def linesFrom (line : List Char) : List Char → List (List Char)
  | [] => if line.isEmpty then [] else [line.reverse]
  | '\r' :: '\n' :: rest => line.reverse :: linesFrom [] rest
  | c :: rest =>
    if isLineBoundary c then line.reverse :: linesFrom [] rest else linesFrom (c :: line) rest

/-- The lines of a text, split at every line boundary. -/
def linesOf (cs : List Char) : List (List Char) := linesFrom [] cs

/-- The parts of a text between its line feeds: one more than there are line feeds. -/
def splitAtFeeds : List Char → List (List Char)
  | [] => [[]]
  | c :: rest =>
    if c = '\n' then [] :: splitAtFeeds rest
    else
      match splitAtFeeds rest with
      | [] => [[c]]
      | part :: parts => (c :: part) :: parts

/-- Puts a line feed between each two parts. -/
def joinWithFeeds (parts : List (List Char)) : List Char := ['\n'].intercalate parts

/-- A space or a tab: what a margin is made of. -/
def isMarginChar (c : Char) : Bool := c == ' ' || c == '\t'

/-- The margin of a line: its leading spaces and tabs. -/
def marginOf (line : List Char) : List Char := line.takeWhile isMarginChar

/-- The longest common beginning of two lists of characters. -/
def commonStart : List Char → List Char → List Char
  | x :: xs, y :: ys => if x = y then x :: commonStart xs ys else []
  | _, _ => []

/-- A line with nothing but spaces and tabs takes no part in the margin. -/
def isMarginOnly (line : List Char) : Bool := line.all isMarginChar

/-- The longest margin that all lines with text share; empty when no line has text. -/
def sharedMargin (lines : List (List Char)) : List Char :=
  match (lines.filter (!isMarginOnly ·)).map marginOf with
  | [] => []
  | margin :: margins => margins.foldl commonStart margin

/-- Removes the shared margin from every line with text and empties the others. -/
def withoutMargin (lines : List (List Char)) : List (List Char) :=
  let margin := sharedMargin lines
  lines.map fun line => if isMarginOnly line then [] else line.drop margin.length

/-- A text without the margin that its lines share, lines being separated by line feeds. -/
def dedent (cs : List Char) : List Char := joinWithFeeds (withoutMargin (splitAtFeeds cs))

/-- Reads every kind of line end of text files, carriage return with or without a line feed, as
a line feed. -/
def withUnixLineEnds : List Char → List Char
  | [] => []
  | '\r' :: '\n' :: rest => '\n' :: withUnixLineEnds rest
  | c :: rest => (if c = '\r' then '\n' else c) :: withUnixLineEnds rest

end ClassDiagram.Text
