import ClassDiagram.Text.Blank
import ClassDiagram.Text.Digit

/-!
# Integers written as text

The integer that a text writes to a base: blanks around it, a sign, a mark that names the base and at
least one digit.  Decimal digits of every script count; the digits above nine are ASCII letters.  A decimal
number with too many digits is not read.
-/

set_option autoImplicit false

namespace ClassDiagram.Text

/-- Why a text writes no integer. -/
inductive IntegerFault where
  /-- The text has another form. -/
  | notInteger
  /-- The number has more digits than are read. -/
  | tooManyDigits (count : Nat)
  deriving Repr, DecidableEq

/-- The most digits of a decimal number that are read. -/
def mostDigitsRead : Nat := 4300

/-- White space around numbers: as elsewhere, but without the four separators. -/
def isBlankAroundNumber (c : Char) : Bool :=
  isBlank c && !(0x1c ≤ c.toNat && c.toNat ≤ 0x1f)

/-- The text without a sign in front. -/
def dropSign : List Char → List Char
  | '+' :: rest => rest
  | '-' :: rest => rest
  | cs => cs

/-- Whether a text begins with a minus. -/
def isNegative (cs : List Char) : Bool := cs.head? == some '-'

/-- The value of a digit in a base up to sixteen. -/
def digitValue? (base : Nat) (c : Char) : Option Nat :=
  let n := c.toNat
  let value? := match decimalValue? c with
    | some d => some d
    | none =>
      if 0x61 ≤ n && n ≤ 0x66 then some (n - 0x57)
      else if 0x41 ≤ n && n ≤ 0x46 then some (n - 0x37)
      else none
  value?.filter (· < base)

/-- The letters that name a base after a zero. -/
def baseLetters : Nat → List Char
  | 2 => ['b', 'B']
  | 8 => ['o', 'O']
  | 16 => ['x', 'X']
  | _ => []

/-- The text without the mark that names the base. -/
def dropBaseMark (base : Nat) : List Char → List Char
  | '0' :: letter :: rest =>
    if (baseLetters base).contains letter then rest else '0' :: letter :: rest
  | cs => cs

/-- The natural number that a row of digits writes to a base.  Digits that are too many count as such
whatever follows them. -/
def naturalOf (base : Nat) (digits : List Char) : Except IntegerFault Nat :=
  let values := (digits.map (digitValue? base)).takeWhile Option.isSome
  if base == 10 && mostDigitsRead < values.length then throw (.tooManyDigits values.length)
  else if digits.isEmpty || values.length < digits.length then throw .notInteger
  else return values.foldl (fun n value => base * n + value.getD 0) 0

/-- The integer that a text writes to a base. -/
def integerOf (base : Nat) (cs : List Char) : Except IntegerFault Int := do
  let trimmed := trimBy isBlankAroundNumber cs
  let size ← naturalOf base (dropBaseMark base (dropSign trimmed))
  return if isNegative trimmed then -(size : Int) else size

/-- Digits without the underscores that stand alone between two of them. -/
def dropGroupMarks : List Char → List Char
  | c :: '_' :: rest =>
    if isDecimalDigit c && (rest.head?.map isDecimalDigit).getD false then c :: dropGroupMarks rest
    else c :: '_' :: dropGroupMarks rest
  | c :: rest => c :: dropGroupMarks rest
  | [] => []

/-- The decimal number that a text writes, with underscores between groups of digits. -/
def groupedIntegerOf (cs : List Char) : Except IntegerFault Int := do
  let trimmed := trimBy isBlankAroundNumber cs
  let size ← naturalOf 10 (dropGroupMarks (dropSign trimmed))
  return if isNegative trimmed then -(size : Int) else size

end ClassDiagram.Text
