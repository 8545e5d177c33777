import ClassDiagram.Diagnostic

/-!
# Lines that are being written

Lines of a text that is being written.  They are kept with the last one first, because the rules on
empty lines look at the end only: two never follow each other, and none stands after an opening brace.
-/

set_option autoImplicit false

namespace ClassDiagram

/-- The lines written so far, the last one first. -/
abbrev WrittenLines := List String

namespace WrittenLines

/-- Whether a line opens a block. -/
def opensBlock (line : String) : Bool := line.toList.getLast? == some '\x7b'

/-- Adds an empty line where one is in order: after a line that is not empty and opens no block. -/
def blank (lines : WrittenLines) : WrittenLines :=
  match lines with
  | [] => []
  | last :: rest => if last.isEmpty || opensBlock last then last :: rest else "" :: last :: rest

/-- Drops the empty lines at the end. -/
def dropBlanks (lines : WrittenLines) : WrittenLines := lines.dropWhile (·.isEmpty)

/-- The lines in the order in which they were written. -/
def inOrder (lines : WrittenLines) : List String := lines.reverse

end WrittenLines

/-- A text repeated. -/
def repeated (text : String) : Nat → String
  | 0 => ""
  | n + 1 => text ++ repeated text n

/-- What lines are indented with: a text for every block around them, or the error that it gives. -/
inductive Indent where
  | unit (text : String)
  | broken (error : Misfit)
  deriving Repr, DecidableEq

/-- Four spaces. -/
def Indent.standard : Indent := .unit "    "

/-- A value as an indentation. -/
def Indent.ofDocument : Document → Indent
  | .text text => .unit text
  | .list _ => .broken (.notAppended "list" "str")
  | .int _ | .bool _ => .broken (.noSum "int" "str")
  | .float _ => .broken (.noSum "float" "str")
  | other => .broken (.noProduct other.kindName "int")

/-- A line at a depth of blocks.  An empty line is not indented; any other needs an indentation. -/
def indentedLine (indent : Indent) (depth : Nat) (text : String) : Except Misfit String :=
  if text.isEmpty then return ""
  else
    match indent with
    | .broken error => throw error
    | .unit indentation => return repeated indentation depth ++ text

/-- A text of lines, each with its line feed. -/
def textOfLines (lines : List String) : String := "\n".intercalate lines ++ "\n"

/-- The text of a value in a line. -/
def lineText (d : Document) : Except Misfit String :=
  match d.display? with
  | some text => return text
  | none => throw .unwritten

/-- The words of a line, of which the first is at a position; each must be a text. -/
def wordTexts (position : Nat) : List Document → Except Misfit (List String)
  | [] => return []
  | .text word :: rest => (wordTexts (position + 1) rest).map (word :: ·)
  | other :: _ => throw (.wordNotText position other.fullKindName)

/-- The words that are given, with spaces between them. -/
def joinWords (words : List Document) : Except Misfit String :=
  (wordTexts 0 (words.filter (·.isGiven))).map (" ".intercalate ·)

end ClassDiagram
