import ClassDiagram.Document.Display
import ClassDiagram.Text.Integer

/-!
# Bounds and multiplicities

Bounds of multiplicities and the text that writes a pair of them: one bound, or two with dots between
them, with white space around each.  A star is the absence of an upper bound.
-/

set_option autoImplicit false

namespace ClassDiagram

/-- A bound of a multiplicity.  A document may give one as a truth value, which counts as one or zero
but is written as the document has it; an edit may put any other value in its place. -/
inductive Bound where
  | number (value : Int)
  | flag (value : Bool)
  | other (value : Document)
  deriving Repr, BEq

namespace Bound

/-- The bound that means any number. -/
def unbounded : Bound := .number (-1)

/-- A bound as a value of a document. -/
def document : Bound → Document
  | number value => .int value
  | flag value => .bool value
  | other value => value

/-- A value of a document as a bound. -/
def ofDocument : Document → Bound
  | .int value => number value
  | .bool value => flag value
  | value => other value

/-- Whether two bounds are equal as values. -/
def same (a b : Bound) : Bool := a.document.isEqual b.document

/-- Whether a bound is a number. -/
def equals (b : Bound) (n : Int) : Bool := b.same (.number n)

/-- How a bound is written, if it has few enough digits. -/
def text? (b : Bound) : Option String := b.document.display?

/-- Whether a bound is that of a single value. -/
def isOne (b : Bound) : Bool := b.equals 1

end Bound

/-- Why a text is no number or no pair of bounds. -/
inductive BoundFault where
  /-- The text has none of the forms of a multiplicity. -/
  | invalidMultiplicity
  /-- The first of two bounds is a star. -/
  | unboundedLower
  /-- A bound that is given alone is neither digits nor a star. -/
  | invalidBound
  /-- Some digits of the text have no decimal value. -/
  | notDecimal (text : String)
  /-- The number has more digits than are read. -/
  | tooManyDigits (count : Nat)
  /-- The value has no text, for a number in it has too many digits. -/
  | unwritten
  deriving Repr, DecidableEq

/-- The number that digits write. -/
def numberOfDigits (digits : List Char) : Except BoundFault Nat :=
  (Text.naturalOf 10 digits).mapError fun
    | .notInteger => .notDecimal (String.ofList digits)
    | .tooManyDigits count => .tooManyDigits count

/-- A bound in a text: a star or decimal digits. -/
inductive BoundText where
  | star
  | digits (cs : List Char)
  deriving Repr, DecidableEq

/-- The bound at the beginning of a text and what follows it. -/
def boundText? (cs : List Char) : Option (BoundText × List Char) :=
  match cs with
  | '*' :: rest => some (.star, rest)
  | _ =>
    let digits := cs.takeWhile Text.isDecimalDigit
    if digits.isEmpty then none else some (.digits digits, cs.dropWhile Text.isDecimalDigit)

/-- Drops white space in front. -/
def skipBlanks (cs : List Char) : List Char := cs.dropWhile Text.isBlank

/-- The one or two bounds that a whole text holds. -/
def boundTexts? (cs : List Char) : Option (BoundText × Option BoundText) := do
  let (first, rest) ← boundText? (skipBlanks cs)
  match skipBlanks rest with
  | [] => return (first, none)
  | '.' :: '.' :: rest =>
    let (second, rest) ← boundText? (skipBlanks rest)
    if (skipBlanks rest).isEmpty then return (first, some second) else none
  | _ => none

/-- The bounds that a text writes: one number for both, a star for any number, or two bounds of which
the first is a number. -/
def readMultiplicity (cs : List Char) : Except BoundFault (Int × Int) :=
  match boundTexts? cs with
  | none => throw .invalidMultiplicity
  | some (.star, none) => return (0, -1)
  | some (.digits n, none) => do
    let n ← numberOfDigits n
    return (n, n)
  | some (.star, some _) => throw .unboundedLower
  | some (.digits n, some .star) => do
    let n ← numberOfDigits n
    return (n, -1)
  | some (.digits n, some (.digits m)) => do
    let n ← numberOfDigits n
    let m ← numberOfDigits m
    return (n, m)

/-- The bounds that a value of a document gives: an integer for both, or the text of the value. -/
def multiplicityOf (value : Document) : Except BoundFault (Int × Int) :=
  match value with
  | .int n => return (n, n)
  | other =>
    match other.display? with
    | some text => readMultiplicity text.toList
    | none => throw .unwritten

/-- A bound that is given alone as a text. -/
def readBound (cs : List Char) : Except BoundFault Int :=
  if cs == ['*'] then return -1
  else if cs.isEmpty || !cs.all Text.isDigit then throw .invalidBound
  else do
    let n ← numberOfDigits cs
    return n

end ClassDiagram
