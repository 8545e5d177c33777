/-!
# Halves of pairs

The codes of sixteen bits write a character beyond the first plane as two halves, and an escape may write
one half alone.  A half is no character.  It is kept in a text as one of a range of code points that no
character has, so that it is not lost and can be shown by its code.
-/

set_option autoImplicit false

namespace ClassDiagram.Text

/-- Whether a code is the first half of a pair. -/
def isLeadingHalf (code : Nat) : Bool := 0xd800 ≤ code && code < 0xdc00

/-- Whether a code is the second half of a pair. -/
def isTrailingHalf (code : Nat) : Bool := 0xdc00 ≤ code && code < 0xe000

/-- The character of two halves. -/
def joinedHalves (leading trailing : Nat) : Char :=
  Char.ofNat (0x10000 + (leading - 0xd800) * 0x400 + (trailing - 0xdc00))

/-- How far the range that keeps halves is from their codes. -/
def halfDistance : Nat := 0xe1000 - 0xd800

/-- What keeps a half in a text. -/
def keptHalf (code : Nat) : Char := Char.ofNat (code + halfDistance)

/-- The character with a code, or what keeps a half. -/
def charOfCode (code : Nat) : Char :=
  if isLeadingHalf code || isTrailingHalf code then keptHalf code else Char.ofNat code

/-- The code of a character of a text, or of the half that is kept there. -/
def codeOf (c : Char) : Nat :=
  let code := c.toNat - halfDistance
  if isLeadingHalf code || isTrailingHalf code then code else c.toNat

end ClassDiagram.Text
