import ClassDiagram.Document.Misfit

/-!
# Values as keys, rows and mappings

A value that is used as a key, gone through in its parts, or taken as a mapping: one that it is, or one that
it gives as a row of pairs.  Each use fails for the values that it does not fit.
-/

set_option autoImplicit false

namespace ClassDiagram.Document

/-- A value that is used as a key. -/
def asKey (d : Document) : Except Misfit Document :=
  match d.keyObstacle? with
  | none => return d
  | some kind => throw (.notKey kind)

/-- The values that a value holds. -/
def asParts (d : Document) : Except Misfit (List Document) :=
  match d.parts? with
  | some parts => return parts
  | none => throw (.noParts d.fullKindName)

/-- The key and the value that an item gives as two parts. -/
def asPair (position : Nat) (item : Document) : Except Misfit (Document × Document) :=
  match item.parts? with
  | some [key, value] => return (← key.asKey, value)
  | some parts => throw (.notPair position parts.length)
  | none => throw (.notSequence position)

/-- The entries of a mapping, or those that a row of keys with their values gives. -/
def asEntries (d : Document) : Except Misfit (List (Document × Document)) :=
  match d.reveal with
  | .map entries => return entries
  | _ => do
    let pairs ← (← d.asParts).zipIdx.mapM fun (item, i) => asPair i item
    return entriesOf pairs

/-- The value under a name of a mapping. -/
def entry (d : Document) (name : String) : Except Misfit Document :=
  match d with
  | map entries =>
    match fieldIn? name entries with
    | some value => return value
    | none => throw (.noEntry name)
  | list _ => throw (.notPlace "str")
  | text _ => throw (.notTextPlace "str")
  | other => throw (.noPlaces other.fullKindName)

/-- The value under a name of a mapping, if there is one. -/
def entry? (d : Document) (name : String) : Option Document :=
  match d with
  | map entries => fieldIn? name entries
  | _ => none

/-- The item of a list at a position. -/
def item (d : Document) (position : Nat) : Except Misfit Document :=
  match d with
  | list items =>
    match items[position]? with
    | some value => return value
    | none => throw .noItem
  | text value =>
    match value.toList[position]? with
    | some c => return text c.toString
    | none => throw .noCharacter
  | map entries =>
    match valueAt? (.int position) entries with
    | some value => return value
    | none => throw (.noEntry (toString position))
  | other => throw (.noPlaces other.fullKindName)

/-- The items of a list behind a position. -/
def itemsFrom (d : Document) (position : Nat) : List Document :=
  match d with
  | list items => items.drop position
  | _ => []

end ClassDiagram.Document
