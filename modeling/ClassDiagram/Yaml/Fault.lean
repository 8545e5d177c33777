/-!
# What can be wrong with a YAML text

A text is malformed or nests too deep, or it is well formed and some scalar in it has no value.  All of these
end the reading; the first fault in the order of reading is the one that is reported.
-/

set_option autoImplicit false

namespace ClassDiagram.Yaml

/-- Why the value of a scalar cannot be formed although the text is well formed. -/
inductive ValueFault where
  | yearRange (year : Nat)
  | monthRange
  | dayRange
  | hourRange
  | minuteRange
  | secondRange
  | zoneRange (minutes : Int)
  | notInteger (base : Nat) (text : String)
  | tooManyDigits (count : Nat)
  | notFloat (text : String)
  /-- A place of a float to base sixty is too high. -/
  | placeRange
  | notTruthValue (word : String)
  | notTimestamp
  /-- A mapping with a value of its own is tagged as a point of time. -/
  | mappingAsTimestamp
  | noDigits
  /-- An escape has a code beyond the last character. -/
  | characterRange
  /-- An escape has a code beyond 31 bits. -/
  | characterSize
  deriving Repr, DecidableEq

/-- Why a YAML text is no document. -/
inductive Fault where
  | malformed
  /-- Collections nest too deep. -/
  | tooDeep
  | value (fault : ValueFault)
  deriving Repr, DecidableEq

/-- What is malformed where nothing is given. -/
def wellFormed {α : Type} : Option α → Except Fault α
  | some a => return a
  | none => throw .malformed

end ClassDiagram.Yaml
