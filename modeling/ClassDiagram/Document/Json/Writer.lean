import ClassDiagram.Document.Display
import ClassDiagram.Text.Half

/-!
# Writing JSON text

Documents as JSON text without blanks.  Numbers are written as they are shown, but infinities and what is no
number by the names that lenient readers know.  A value that has no JSON form is written as a mapping with the
name of its kind, and a collection that contains itself as its body.
-/

set_option autoImplicit false

namespace ClassDiagram.Json

/-- A character inside a written text.  Controls and halves are written by their codes. -/
def escaped (c : Char) : String :=
  let code := Text.codeOf c
  if c == '"' then "\\\""
  else if c == '\\' then "\\\\"
  else if code < 0x20 || code != c.toNat then "\\u" ++ String.ofList (Text.hexDigits 4 code)
  else c.toString

/-- A text between quotes. -/
def writeText (text : String) : String :=
  "\"" ++ text.foldl (fun written c => written ++ escaped c) "" ++ "\""

/-- A floating point number. -/
def writeFloat : Decimal.Binary64 → String
  | .notANumber => "NaN"
  | .infinite negative => if negative then "-Infinity" else "Infinity"
  | value => (Document.float value).display?.getD ""

/-- A key of a mapping as a text. -/
def keyText : Document → String
  | .null => "null"
  | .bool value => if value then "true" else "false"
  | .float value => writeFloat value
  | other => other.display?.getD ""

/-- The kind of a value that has no JSON form. -/
def writeKind (d : Document) : String :=
  "\x7b" ++ writeText "type" ++ ":" ++ writeText d.kindName ++ "\x7d"

mutual

/-- The JSON text of a value. -/
def write : Document → String
  | .null => "null"
  | .bool value => if value then "true" else "false"
  | .int value => toString value
  | .float value => writeFloat value
  | .text value => writeText value
  | .pair a b => "[" ++ write a ++ "," ++ write b ++ "]"
  | .list items => "[" ++ ",".intercalate (writeItems items) ++ "]"
  | .map entries => "\x7b" ++ ",".intercalate (writeEntries entries) ++ "\x7d"
  | .knot _ body => write body
  | .bytes octets => writeKind (.bytes octets)
  | .set items => writeKind (.set items)
  | .date value => writeKind (.date value)
  | .moment value => writeKind (.moment value)
  | .again label => writeKind (.again label)

/-- The JSON texts of the items of a list. -/
def writeItems : List Document → List String
  | [] => []
  | item :: rest => write item :: writeItems rest

/-- The JSON texts of the entries of a mapping. -/
def writeEntries : List (Document × Document) → List String
  | [] => []
  | (key, value) :: rest => (writeText (keyText key) ++ ":" ++ write value) :: writeEntries rest

end

end ClassDiagram.Json
