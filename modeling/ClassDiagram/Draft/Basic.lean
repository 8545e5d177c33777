import ClassDiagram.Document.Misfit
import ClassDiagram.Linking

/-!
# Drafts of models

Models under edit.  A draft has a tree of elements, which may be changed at any time, and what is
remembered from the time when it was linked: what each element was in, what each reference was found to
lead to, and the index of names.  None of this follows a change of the tree before the draft is linked
again.  Elements that were taken out of the tree are kept aside, because references may lead to them and
elements may still count as theirs.

An edit may give a field a value of another kind than the field's.  The element then has the text of the
value, and the value itself is kept beside the tree.
-/

set_option autoImplicit false

namespace ClassDiagram

namespace Draft

/-- Where an element came from: which addition to the draft brought it, and its position there.  No edit
changes it, so it is what an element of a draft is known by. -/
structure Origin where
  addition : Nat
  position : Path
  deriving Repr, DecidableEq

/-- What an element can be in: the model itself or another element. -/
inductive Holder where
  | model
  | element (origin : Origin)
  deriving Repr, DecidableEq

/-- An element of a draft: its origin, and what it was in when the draft was last linked with it. -/
structure Handle where
  origin : Origin
  holder : Option Holder
  deriving Repr, DecidableEq

/-- What is known of the target of a reference. -/
inductive Aim where
  /-- It was not looked up yet. -/
  | unknown
  /-- It was looked up. -/
  | settled (found : Option Origin)
  /-- It was given, whatever the name. -/
  | given (target : Holder)
  /-- There is no reference, only its place in a list. -/
  | absent
  deriving Repr, BEq

/-- A reference of a draft.  Its name is a text unless an edit has given another value.  Before it is linked
it belongs to nothing and cannot be looked up. -/
structure Pointer where
  name : Document
  isLinked : Bool
  aim : Aim
  deriving Repr, BEq

namespace Pointer

/-- A new reference by name. -/
def named (name : Document) : Pointer := ⟨name, false, .unknown⟩

/-- A new reference with a target. -/
def towards (name : Document) (target : Holder) : Pointer := ⟨name, false, .given target⟩

/-- The place of a reference in a list without a reference. -/
def absent : Pointer := ⟨.null, false, .absent⟩

/-- Whether there is no reference. -/
def isAbsent (p : Pointer) : Bool := p.aim == .absent

/-- Forgets what was looked up; a target that was given stays. -/
def reset (p : Pointer) : Pointer :=
  match p.aim with
  | .settled _ => { p with aim := .unknown }
  | _ => p

/-- The reference as it is after linking. -/
def linked (p : Pointer) : Pointer := { p.reset with isLinked := true }

/-- The name of a reference as a text. -/
def label (p : Pointer) : String := p.name.display?.getD ""

/-- How a reference is shown. -/
def text (p : Pointer) : String :=
  if p.isAbsent then "None" else "Reference(" ++ p.name.literal?.getD "" ++ ")"

/-- Whether the name has to be looked up to know the target. -/
def isOpen (p : Pointer) : Bool := p.isLinked && p.aim == .unknown

end Pointer

/-- Where a reference stands: the element that declares it, the field and the position in it. -/
structure Spot where
  owner : Origin
  field : RefField
  index : Nat
  deriving Repr, DecidableEq

/-- A value that an edit has given to a field of a holder, where it is of another kind than the field's or
the holder's sort has no such field. -/
structure GivenValue where
  holder : Holder
  field : String
  value : Document
  deriving Repr

/-- A reference, or none, that an edit has given to a holder whose sort has no type. -/
structure GivenType where
  holder : Holder
  type : Option Pointer
  deriving Repr

/-- A type that a name of a draft leads to. -/
structure Entry where
  origin : Origin
  kind : Kind
  deriving Repr, DecidableEq

instance : HasKind Entry := ⟨Entry.kind⟩

/-- The entry of a type. -/
def Entry.ofType (t : Classifier Handle Pointer) : Entry := ⟨t.place.origin, t.kind⟩

/-- The index of names of a draft.  A name that is no text has a label there, which no name that is looked up
is equal to; the labels are listed with the names. -/
structure Index where
  tree : NameTree Entry
  labels : List (String × Document)
  deriving Repr

end Draft

open Draft

/-- A model under edit: its tree, the elements aside, the index of names as it was when it was first used
after linking, how many additions there were, and the values that do not fit their fields. -/
structure Draft where
  model : Model Handle Pointer
  aside : List (Element Handle Pointer)
  index : Option Index
  additions : Nat
  given : List GivenValue
  givenTypes : List GivenType
  deriving Repr

namespace Draft

/-! ## Elements -/

/-- All elements, those of the tree first. -/
def elements (d : Draft) : List (Element Handle Pointer) :=
  d.model.elements ++ d.aside.flatMap Element.all

/-- The element with an origin among some elements. -/
def elementAmong (elements : List (Element Handle Pointer)) (origin : Origin) :
    Option (Element Handle Pointer) :=
  elements.find? (·.place.origin == origin)

/-- The element with an origin. -/
def element? (d : Draft) (origin : Origin) : Option (Element Handle Pointer) :=
  elementAmong d.elements origin

/-- The value that was given to a field of a holder, if it does not fit. -/
def given? (d : Draft) (holder : Holder) (field : String) : Option Document :=
  (d.given.find? fun g => g.holder == holder && g.field == field).map (·.value)

/-- The name of an element as it was given. -/
def nameGiven (d : Draft) (e : Element Handle Pointer) : Document :=
  (d.given? (.element e.place.origin) "name").getD (.text e.name)

/-- The origins of the elements of a tree, each with the position of the element. -/
abbrev Positions := List (Origin × Path)

/-- The positions of the elements of the tree. -/
def positions (d : Draft) : Positions :=
  (d.model.elements.zip (Linking.settle d.model).elements).map fun (e, settled) =>
    (e.place.origin, settled.place.key.path)

/-- The origin of the element at a position. -/
def Positions.originAt? (positions : Positions) (path : Path) : Option Origin :=
  (positions.find? (·.2 == path)).map Prod.fst

/-! ## What elements are in -/

/-- What a holder is, then what it is in, and so on outwards, as the elements remember it. -/
def outward (elements : List (Element Handle Pointer)) : Nat → Option Holder → List Holder
  | _, none => []
  | _, some .model => [.model]
  | 0, some (.element _) => []
  | fuel + 1, some (.element origin) =>
    .element origin :: outward elements fuel ((elementAmong elements origin).bind (·.place.holder))

/-- A holder and all that is around it among some elements, the nearest first.  No element is around itself,
so there are no more of them than elements. -/
def holdersAmong (elements : List (Element Handle Pointer)) (holder : Option Holder) : List Holder :=
  outward elements elements.length holder

/-- A holder and all that is around it, the nearest first. -/
def holders (d : Draft) (holder : Option Holder) : List Holder := holdersAmong d.elements holder

/-- The package that a holder is, among some elements. -/
def packageAmong (elements : List (Element Handle Pointer)) :
    Holder → Option (Package Handle Pointer)
  | .model => none
  | .element origin =>
    match elementAmong elements origin with
    | some (.package p) => some p
    | _ => none

/-- The package that a holder is. -/
def package? (d : Draft) (holder : Holder) : Option (Package Handle Pointer) :=
  packageAmong d.elements holder

/-- The packages among a holder and all that is around it, the nearest first. -/
def packagesFrom (d : Draft) (holder : Option Holder) : List (Package Handle Pointer) :=
  let elements := d.elements
  (holdersAmong elements holder).filterMap (packageAmong elements)

/-- The packages around a holder, the outermost first; for a package itself included. -/
def packagesAround (d : Draft) (holder : Holder) : List (Package Handle Pointer) :=
  (d.packagesFrom (some holder)).reverse

/-- What a holder is in. -/
def container? (d : Draft) : Holder → Option Holder
  | .model => none
  | .element origin => (d.element? origin).bind (·.place.holder)

/-- The nearest package that a holder is in. -/
def nearestPackage? (d : Draft) (holder : Holder) : Option (Package Handle Pointer) :=
  (d.packagesFrom (d.container? holder)).head?

/-- Whether a holder belongs to the model, as remembered. -/
def isInModel (d : Draft) (holder : Option Holder) : Bool := (d.holders holder).contains .model

/-- The names of the packages around an element, the outermost first; for a package its own included. -/
def home (d : Draft) (origin : Origin) : List String :=
  (d.packagesAround (.element origin)).map (·.name)

/-! ## Linking -/

/-- What the element at a position is in. -/
def Positions.holderAt (positions : Positions) (path : Path) : Option Holder :=
  match path.dropLast with
  | [] => some .model
  | around => (positions.originAt? around).map .element

/-- What the element with an origin is in, if it is in the tree. -/
def Positions.holderOf (positions : Positions) (origin : Origin) : Option Holder :=
  (List.lookup origin positions).bind positions.holderAt

/-- The first spot of the tree where a reference is missing. -/
def linkStop? (d : Draft) : Option Spot :=
  d.model.elements.findSome? fun e => e.references.findSome? fun (field, i, p) =>
    if p.isAbsent then some ⟨e.place.origin, field, i⟩ else none

/-- The draft linked: every element knows what it is in, and all that was looked up is forgotten. -/
def linkAll (d : Draft) : Draft :=
  let positions := d.positions
  { d with
    model := d.model.map (fun h => ⟨h.origin, positions.holderOf h.origin⟩) fun _ _ _ p => p.linked
    index := none }

/-- Whether one field comes before another one in an element. -/
def comesBefore (a b : RefField) : Bool := a == .superClasses && b == .superInterfaces

/-- The draft linked as far as a spot where a reference is missing.  What comes after it stays as it was,
and so does the index. -/
def linkUntil (d : Draft) (stop : Spot) : Draft :=
  let positions := d.positions
  let before := (d.model.elements.takeWhile (·.place.origin != stop.owner)).map (·.place.origin)
  let isReached (origin : Origin) : Bool := origin == stop.owner || before.contains origin
  let isLinked (origin : Origin) (field : RefField) (i : Nat) : Bool :=
    before.contains origin || origin == stop.owner &&
      (comesBefore field stop.field || field == stop.field && decide (i < stop.index))
  { d with
    model := d.model.map
      (fun h => if isReached h.origin then ⟨h.origin, positions.holderOf h.origin⟩ else h)
      fun h field i p => if isLinked h.origin field i then p.linked else p }

/-- The draft after it was linked.  Linking fails where a reference is missing. -/
def link (d : Draft) : Except Misfit Unit × Draft :=
  match d.linkStop? with
  | none => (return, d.linkAll)
  | some stop => (throw (.noField "NoneType" "container"), d.linkUntil stop)

/-! ## Additions -/

/-- A settled place as an origin in an addition. -/
def handleIn (addition : Nat) (place : Place) : Handle := ⟨⟨addition, place.key.path⟩, none⟩

/-- What an element declares, each element of it settled at a position of its own. -/
def settleItem : Element Unit String → Element Place String
  | .package p => .package (Linking.settlePackage [] [] 0 p)
  | .classifier t => .classifier (Linking.settleType [] [] 0 t)
  | .property p => .property (Linking.settleProperty [] [] .property 0 p)
  | .operation o => .operation (Linking.settleOperation [] [] 0 o)
  | .parameter r => .parameter (Linking.settleParameter [] [] 0 r)

/-- A declared element as an element of the next addition. -/
def newElement (d : Draft) (item : Element Unit String) : Element Handle Pointer :=
  (settleItem item).map (handleIn d.additions) fun _ _ _ name => .named (.text name)

/-- Keeps an element aside. -/
def keepAside (d : Draft) (e : Element Handle Pointer) : Draft := { d with aside := d.aside ++ [e] }

/-- The draft of a declared model, linked. -/
def ofDeclared (m : Declared) : Draft :=
  let model := (Linking.settle m).map (handleIn 0) fun _ _ _ name => .named (.text name)
  linkAll ⟨model, [], none, 1, [], []⟩

end Draft

end ClassDiagram
