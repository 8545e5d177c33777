import ClassDiagram.Text.CaseTable

/-!
# Upper and lower case

Upper and lower case of any text.  A character may become several (`ß` is `SS` in upper case),
and a capital sigma at the end of a word has a lower case form of its own.
-/

set_option autoImplicit false

namespace ClassDiagram.Text

/-- The characters with the given code points. -/
private def charsOf (codes : List Nat) : List Char := codes.map Char.ofNat

/-- The full upper case form of a character. -/
def upperChar (c : Char) : List Char :=
  match shifted? upperRuns c.toNat with
  | some code => [Char.ofNat code]
  | none => ((upperExpansions.lookup c.toNat).map charsOf).getD [c]

/-- The full lower case form of a character that stands alone. -/
def lowerChar (c : Char) : List Char :=
  match shifted? lowerRuns c.toNat with
  | some code => [Char.ofNat code]
  | none => ((lowerExpansions.lookup c.toNat).map charsOf).getD [c]

/-- Whether the nearest character that is not skipped is a cased letter. -/
def meetsCasedLetter (cs : List Char) : Bool :=
  match cs.dropWhile (inRanges caseIgnorableRanges) with
  | [] => false
  | c :: _ => inRanges casedRanges c

/-- The upper case form of a list of characters. -/
def upperChars (cs : List Char) : List Char := cs.flatMap upperChar

/-- The lower case form of `cs` after the characters of `before`, the nearest first.  A capital
sigma that ends a word becomes a final sigma. -/
def lowerCharsAfter (before : List Char) : List Char → List Char
  | [] => []
  | c :: rest =>
    let form :=
      if c = 'Σ' && meetsCasedLetter before && !meetsCasedLetter rest then ['ς'] else lowerChar c
    form ++ lowerCharsAfter (c :: before) rest

/-- The upper case form of a text. -/
def upper (s : String) : String := String.ofList (upperChars s.toList)

/-- The lower case form of a text. -/
def lower (s : String) : String := String.ofList (lowerCharsAfter [] s.toList)

end ClassDiagram.Text
