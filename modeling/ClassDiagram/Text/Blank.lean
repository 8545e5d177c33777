import ClassDiagram.Text.CodeRange

/-!
# White space

White space of Unicode and its removal at the ends of a text.
-/

set_option autoImplicit false

namespace ClassDiagram.Text

/-- White space: the blanks, the line and paragraph boundaries and the four separators. -/
def blankRanges : List CodeRange := [
  ⟨0x9, 0xd⟩, ⟨0x1c, 0x20⟩, ⟨0x85, 0x85⟩, ⟨0xa0, 0xa0⟩, ⟨0x1680, 0x1680⟩, ⟨0x2000, 0x200a⟩,
  ⟨0x2028, 0x2029⟩, ⟨0x202f, 0x202f⟩, ⟨0x205f, 0x205f⟩, ⟨0x3000, 0x3000⟩]

/-- Whether a character is white space. -/
def isBlank (c : Char) : Bool := inRanges blankRanges c

/-- Drops the characters in a class at the end. -/
def trimRightBy (p : Char → Bool) (cs : List Char) : List Char :=
  (cs.reverse.dropWhile p).reverse

/-- Drops the characters in a class at both ends. -/
def trimBy (p : Char → Bool) (cs : List Char) : List Char :=
  trimRightBy p (cs.dropWhile p)

/-- Drops white space at both ends of a text. -/
def trim (s : String) : String := String.ofList (trimBy isBlank s.toList)

/-- Drops white space at the end of a text. -/
def trimRight (s : String) : String := String.ofList (trimRightBy isBlank s.toList)

end ClassDiagram.Text
