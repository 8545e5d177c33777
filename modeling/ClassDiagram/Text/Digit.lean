import ClassDiagram.Text.DigitTable

/-!
# Digits

Digits of every script.  A decimal digit has a value from zero to nine; other digits, such as a
superscript two, count as digits but have no decimal value.
-/

set_option autoImplicit false

namespace ClassDiagram.Text

/-- The value of a decimal digit of any script. -/
def decimalValue? (c : Char) : Option Nat :=
  (decimalZeros.find? fun base => base ≤ c.toNat && c.toNat ≤ base + 9).map (c.toNat - ·)

/-- Whether a character is a decimal digit. -/
def isDecimalDigit (c : Char) : Bool := (decimalValue? c).isSome

/-- Whether a character is a digit, with or without a decimal value. -/
def isDigit (c : Char) : Bool := isDecimalDigit c || inRanges otherDigitRanges c

/-- The number that a row of decimal digits writes, the highest place first, after the digits of
`high`; `none` when some character has no decimal value. -/
def decimalNumberFrom? (high : Nat) : List Char → Option Nat
  | [] => some high
  | c :: rest =>
    match decimalValue? c with
    | some value => decimalNumberFrom? (10 * high + value) rest
    | none => none

/-- The number that a non-empty row of decimal digits writes. -/
def decimalNumber? : List Char → Option Nat
  | [] => none
  | cs => decimalNumberFrom? 0 cs

end ClassDiagram.Text
