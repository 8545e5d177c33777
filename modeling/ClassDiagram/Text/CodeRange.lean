/-!
# Ranges of characters

Sets of characters given by ranges of code points, and maps of characters given by runs.  The
tables of character properties beside this module are lists of these two.
-/

set_option autoImplicit false

namespace ClassDiagram.Text

/-- The code points from `first` to `last`, both included. -/
structure CodeRange where
  first : Nat
  last : Nat
  deriving Repr, DecidableEq

/-- A code point lies in a range when it is neither before its first nor after its last one. -/
def CodeRange.contains (r : CodeRange) (code : Nat) : Bool :=
  r.first ≤ code && code ≤ r.last

/-- Membership of a character in a set given by ranges. -/
def inRanges (ranges : List CodeRange) (c : Char) : Bool :=
  ranges.any (·.contains c.toNat)

/-- The code points `first`, `first + stride`, … up to `last`, each moved by `shift`. -/
structure CaseRun where
  first : Nat
  last : Nat
  stride : Nat
  shift : Int
  deriving Repr, DecidableEq

/-- Whether a run moves a code point. -/
def CaseRun.contains (r : CaseRun) (code : Nat) : Bool :=
  r.first ≤ code && code ≤ r.last && (code - r.first) % r.stride == 0

/-- Where the first run that contains a code point moves it; `none` when no run contains it. -/
def shifted? (runs : List CaseRun) (code : Nat) : Option Nat :=
  (runs.find? (·.contains code)).map fun r => (Int.ofNat code + r.shift).toNat

end ClassDiagram.Text
