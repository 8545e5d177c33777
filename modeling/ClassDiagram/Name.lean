import ClassDiagram.Text.Case

/-!
# Names of elements

The conventions on capitals, the names of accessor methods, and qualified names, whose segments are
separated by a dot, a slash or two colons.
-/

set_option autoImplicit false

namespace ClassDiagram

/-- The name with its first character in upper case. -/
def capitalized (name : String) : String :=
  match name.toList with
  | [] => ""
  | c :: rest => String.ofList (Text.upperChar c ++ rest)

/-- Whether the first character is its own upper case form; so for an empty name. -/
def beginsUpper (name : String) : Bool :=
  match name.toList with
  | [] => true
  | c :: _ => Text.upperChar c == [c]

/-- Whether the first character is its own lower case form; so for an empty name. -/
def beginsLower (name : String) : Bool :=
  match name.toList with
  | [] => true
  | c :: _ => Text.lowerChar c == [c]

/-- Whether a name is its own upper case form. -/
def isAllUpper (name : String) : Bool := Text.upper name == name

/-- The accessors of a member. -/
inductive AccessorKind where
  | get
  | set
  | addTo
  | removeFrom
  | sizeOf
  deriving Repr, DecidableEq

/-- The accessors in the order in which they are listed. -/
def AccessorKind.all : List AccessorKind := [.get, .set, .addTo, .removeFrom, .sizeOf]

/-- The word that the name of an accessor begins with. -/
def AccessorKind.verb : AccessorKind → String
  | get => "get"
  | set => "set"
  | addTo => "addTo"
  | removeFrom => "removeFrom"
  | sizeOf => "sizeOf"

/-- The accessor whose name begins with a word. -/
def AccessorKind.ofVerb? (verb : String) : Option AccessorKind :=
  AccessorKind.all.find? (·.verb == verb)

/-- The name of an accessor of a member. -/
def AccessorKind.method (kind : AccessorKind) (member : String) : String :=
  kind.verb ++ capitalized member

/-- The segments of a qualified name, empty ones included, where `segment` holds what was read of the
current one, the last character first. -/
def segmentsFrom (segment : List Char) : List Char → List (List Char)
  | [] => [segment.reverse]
  | ':' :: ':' :: rest => segment.reverse :: segmentsFrom [] rest
  | c :: rest =>
    if c = '.' || c = '/' then segment.reverse :: segmentsFrom [] rest
    else segmentsFrom (c :: segment) rest

/-- The segments of a qualified name without the empty ones. -/
def nameSegments (name : String) : List String :=
  ((segmentsFrom [] name.toList).filter (!·.isEmpty)).map String.ofList

end ClassDiagram
