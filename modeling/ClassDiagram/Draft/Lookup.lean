import ClassDiagram.Draft.Basic
import ClassDiagram.Model.Change

/-!
# Names in a draft

A name is looked up in the packages that its place was in when the draft was linked, with the types and
names that they have now.  Qualified names go through the index, which is kept from its first use on.
What a reference was found to lead to is kept as well, so an answer depends on which references were
looked up before an edit; looking up others in between changes nothing.

A type whose name is no text is found by no name.
-/

set_option autoImplicit false

namespace ClassDiagram.Draft

/-! ## Labels -/

/-- The label of a value among others; equal values have one label. -/
def labelAmong (values : List Document) (value : Document) : String :=
  "\x00" ++ toString (values.findIdx (·.sameKey value))

/-- The label of a value that is given for a name. -/
def labelOf (d : Draft) (value : Document) : String := labelAmong (d.given.map (·.value)) value

/-- What an element is filed under: its name, or the label of what is given for it. -/
def filedUnder (d : Draft) (origin : Origin) (name : String) : String :=
  ((d.given? (.element origin) "name").map d.labelOf).getD name

/-- The labels of names that are no texts. -/
def labels (d : Draft) : List (String × Document) :=
  (d.given.filter (·.field == "name")).map fun g => (d.labelOf g.value, g.value)

/-- The tree with every package and type under what it is filed under. -/
def filed (d : Draft) : Model Handle Pointer :=
  if d.labels.isEmpty then d.model
  else
    let change : Change Handle Pointer :=
      { package := fun p => { p with name := d.filedUnder p.place.origin p.name }
        classifier := fun t => { t with name := d.filedUnder t.place.origin t.name } }
    change.ofModel d.model

/-! ## Names -/

/-- The types of a list by what they are filed under. -/
def scopeOf (d : Draft) (types : List (Classifier Handle Pointer)) : Scope Entry :=
  types.map fun t => (d.filedUnder t.place.origin t.name, .ofType t)

/-- The index of the names of the tree as it is now. -/
def freshIndex (d : Draft) : Index := ⟨d.filed.nameTree .ofType, d.labels⟩

/-- The index that is used: the one that was kept, if there is one. -/
def currentIndex (d : Draft) : Index := d.index.getD d.freshIndex

/-- The draft after the index was used. -/
def keepIndex (d : Draft) : Draft := { d with index := some d.currentIndex }

/-- What a name of a draft is looked up in; only a qualified name needs the index. -/
def directoryFor (d : Draft) (name : String) : Directory Entry :=
  ⟨if isQualified name then d.currentIndex.tree else .empty "", d.scopeOf d.model.types⟩

/-- The type that a name leads to from a holder; from outside the model there is none. -/
def lookUp (d : Draft) (scope : Holder) (kinds : List Kind) (name : String) : Option Entry :=
  if d.isInModel (some scope) then
    (d.directoryFor name).find? ((d.packagesFrom (some scope)).map fun p => d.scopeOf p.types) kinds name
  else none

/-- Whether looking up a name from a holder uses the index. -/
def usesIndex (d : Draft) (scope : Holder) (name : String) : Bool :=
  isQualified name && d.isInModel (some scope)

/-- The type that a name leads to from a holder, and the draft after looking it up. -/
def find (d : Draft) (scope : Holder) (kinds : List Kind) (name : String) : Option Entry × Draft :=
  (d.lookUp scope kinds name, if d.usesIndex scope name then d.keepIndex else d)

/-- The type with a qualified name, and the draft after looking it up. -/
def findQualified (d : Draft) (kinds : List Kind) (name : String) : Option Entry × Draft :=
  (d.currentIndex.tree.findQualified kinds name,
    if (nameSegments name).isEmpty then d else d.keepIndex)

/-! ## References -/

/-- The type that a name of a reference leads to, if the name is a text. -/
def lookUpGiven (d : Draft) (owner : Origin) (field : RefField) : Document → Option Origin
  | .text name => (d.lookUp (.element owner) field.kinds name).map (·.origin)
  | _ => none

/-- What a reference in a field of an element leads to. -/
def targetOf (d : Draft) (owner : Origin) (field : RefField) (p : Pointer) : Option Holder :=
  match p.aim with
  | .given target => some target
  | .settled found => found.map .element
  | .unknown => if p.isLinked then (d.lookUpGiven owner field p.name).map .element else none
  | .absent => none

/-- The reference after its target was asked for. -/
def settled (d : Draft) (owner : Origin) (field : RefField) (p : Pointer) : Pointer :=
  if p.isOpen then { p with aim := .settled (d.lookUpGiven owner field p.name) } else p

/-- A choice of references: by the element that declares them, the field and the position in it. -/
abbrev Choice := Origin → RefField → Nat → Bool

/-- The draft with other references. -/
def mapPointers (d : Draft) (g : Handle → RefField → Nat → Pointer → Pointer) : Draft :=
  { d with model := d.model.map id g, aside := d.aside.map (·.map id g) }

/-- Whether asking for the targets of chosen references uses the index. -/
def choiceUsesIndex (d : Draft) (chosen : Choice) : Bool :=
  d.elements.any fun e => e.references.any fun (field, i, p) =>
    p.isOpen && chosen e.place.origin field i && d.usesIndex (.element e.place.origin) p.label

/-- The draft after the targets of chosen references were asked for. -/
def settle (d : Draft) (chosen : Choice) : Draft :=
  let after := d.mapPointers fun h field i p =>
    if chosen h.origin field i then d.settled h.origin field p else p
  if d.choiceUsesIndex chosen then { after with index := some d.currentIndex } else after

/-- Forgets what a reference was found to lead to. -/
def forget (d : Draft) (origin : Origin) (field : RefField) (index : Nat) : Draft :=
  d.mapPointers fun h f i p =>
    if h.origin == origin && f == field && i == index then p.reset else p

end ClassDiagram.Draft
