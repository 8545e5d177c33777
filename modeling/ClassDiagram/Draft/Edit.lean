import ClassDiagram.Draft.Field

/-!
# Edits of a draft

Attributes and references of an element are set, and elements are put in and taken out.  An edit changes
the tree alone; the draft has to be linked again for the rest to follow.  A value that does not fit its
attribute is kept beside the tree, and the tree has what it counts as.
-/

set_option autoImplicit false

namespace ClassDiagram.Draft

/-- Applies a change to all elements, those aside included. -/
def changeAll (d : Draft) (r : Change Handle Pointer) : Draft :=
  { d with model := r.ofModel d.model, aside := d.aside.map r.ofElement }

/-! ## Attributes -/

/-- An attribute of an element and its new value. -/
inductive Attribute where
  | name (value : String)
  | lower (value : Bound)
  | upper (value : Bound)
  | isAbstract (value : Bool)
  | isStatic (value : Bool)
  | visibility (value : Option Visibility)
  | aggregation (value : Aggregation)
  | description (value : Document)
  | content (value : Document)
  | literals (values : List String)
  deriving Repr

namespace Attribute

/-- Sets an attribute that packages have. -/
def ofPackage (a : Attribute) (p : Package Handle Pointer) : Package Handle Pointer :=
  match a with
  | name value => { p with name := value }
  | _ => p

/-- Sets an attribute that types of a kind have. -/
def ofClassifier (a : Attribute) (t : Classifier Handle Pointer) : Classifier Handle Pointer :=
  match a, t.body with
  | name value, _ => { t with name := value }
  | isAbstract value, .classBody c => { t with body := .classBody { c with isAbstract := value } }
  | literals values, .enumeration _ => { t with body := .enumeration values }
  | _, _ => t

/-- Sets an attribute that properties have. -/
def ofProperty (a : Attribute) (p : Property Handle Pointer) : Property Handle Pointer :=
  match a with
  | name value => { p with name := value }
  | lower value => { p with lower := value }
  | upper value => { p with upper := value }
  | isStatic value => { p with isStatic := value }
  | visibility value => { p with visibility := value }
  | aggregation value => { p with aggregation := value }
  | _ => p

/-- Sets an attribute that operations have. -/
def ofOperation (a : Attribute) (o : Operation Handle Pointer) : Operation Handle Pointer :=
  match a with
  | name value => { o with name := value }
  | lower value => { o with lower := value }
  | upper value => { o with upper := value }
  | isAbstract value => { o with isAbstract := value }
  | isStatic value => { o with isStatic := value }
  | visibility value => { o with visibility := value }
  | description value => { o with description := value }
  | content value => { o with content := value }
  | _ => o

/-- Sets an attribute that parameters have. -/
def ofParameter (a : Attribute) (r : Parameter Handle Pointer) : Parameter Handle Pointer :=
  match a with
  | name value => { r with name := value }
  | upper value => { r with upper := value }
  | _ => r

/-- The text that a value counts as. -/
def textOf (value : Document) : String := value.display?.getD ""

/-- The attribute with a name and a value.  Words for a visibility or an aggregation are known ones. -/
def ofWord? (word : String) (value : Document) : Option Attribute :=
  match word with
  | "name" => some (.name (textOf value))
  | "lower" => some (.lower (.ofDocument value))
  | "upper" => some (.upper (.ofDocument value))
  | "is_abstract" => some (.isAbstract value.isGiven)
  | "is_static" => some (.isStatic value.isGiven)
  | "visibility" => some (.visibility (Visibility.ofWord? (textOf value)))
  | "aggregation" => (Aggregation.ofWord? (textOf value)).map .aggregation
  | "description" => some (.description value)
  | "content" => some (.content value)
  | "literals" => some (.literals ((value.parts?.getD []).map textOf))
  | _ => none

/-- Whether the attribute with a name can hold a value. -/
def fits (word : String) (value : Document) : Bool :=
  match word, value with
  | "name", value => value.isText
  | "is_abstract", .bool _ => true
  | "is_abstract", _ => false
  | "is_static", .bool _ => true
  | "is_static", _ => false
  | "literals", .list items => items.all (·.isText)
  | "literals", _ => false
  | _, _ => true

/-- The words for the attributes of an element. -/
def words : Element Handle Pointer → List String
  | .package _ => ["name"]
  | .property _ => ["name", "lower", "upper", "is_static", "visibility", "aggregation"]
  | .operation _ =>
    ["name", "lower", "upper", "is_static", "is_abstract", "visibility", "description", "content"]
  | .parameter _ => ["name"]
  | .classifier t =>
    match t.kind with
    | .classKind => ["name", "is_abstract"]
    | .enumeration => ["name", "literals"]
    | _ => ["name"]

end Attribute

/-- Whether a holder has an attribute of its own that can hold a value. -/
def canHold (d : Draft) (holder : Holder) (word : String) (value : Document) : Bool :=
  match holder with
  | .model => false
  | .element origin =>
    Attribute.fits word value && (d.element? origin).any fun e => (Attribute.words e).contains word

/-- Keeps beside the tree what was given to a holder, in the place of what was there. -/
def keepGiven (d : Draft) (g : GivenValue) (fits : Bool) : Draft :=
  let others := d.given.filter fun h => !(h.holder == g.holder && h.field == g.field)
  { d with given := if fits then others else others ++ [g] }

/-- Sets an attribute of an element; one that elements of its sort do not have changes nothing in it. -/
def apply (d : Draft) (origin : Origin) (a : Attribute) : Draft :=
  d.changeAll
    { package := fun p => if p.place.origin = origin then a.ofPackage p else p
      classifier := fun t => if t.place.origin = origin then a.ofClassifier t else t
      property := fun p => if p.place.origin = origin then a.ofProperty p else p
      operation := fun o => if o.place.origin = origin then a.ofOperation o else o
      parameter := fun r => if r.place.origin = origin then a.ofParameter r else r }

/-- Gives a value to an attribute of a holder. -/
def set (d : Draft) (holder : Holder) (word : String) (value : Document) : Draft :=
  let kept := d.keepGiven ⟨holder, word, value⟩ (d.canHold holder word value)
  match holder, Attribute.ofWord? word value with
  | .element origin, some a => kept.apply origin a
  | _, _ => kept

/-! ## References -/

/-- Whether the elements of a sort have a type. -/
def isTyped : Element Handle Pointer → Bool
  | .property _ | .operation _ | .parameter _ => true
  | _ => false

/-- Sets the type of a holder; for one that has none the type is kept beside the tree. -/
def setType (d : Draft) (holder : Holder) (type : Option Pointer) : Draft :=
  let beside : Draft :=
    { d with givenTypes := d.givenTypes.filter (·.holder != holder) ++ [⟨holder, type⟩] }
  match holder with
  | .model => beside
  | .element origin =>
    if (d.element? origin).any isTyped then
      d.changeAll
        { property := fun p => if p.place.origin = origin then { p with type := type } else p
          operation := fun o => if o.place.origin = origin then { o with type := type } else o
          parameter := fun r => if r.place.origin = origin then { r with type := type } else r }
    else beside

/-- Changes the super references of a holder; a holder without such references has none to change. -/
def changeSupers (d : Draft) (holder : Holder) (word : String) (f : List Pointer → List Pointer) :
    Draft :=
  match holder, RefField.ofWord? word with
  | .element origin, some field =>
    d.changeAll
      { classifier := fun t =>
          if t.place.origin = origin then { t with body := t.body.changeSupers field f } else t }
  | _, _ => d

/-- Adds a reference to a list of a holder. -/
def addSuper (d : Draft) (holder : Holder) (word : String) (p : Pointer) : Except Misfit Draft := do
  (← d.field holder word).mustBeList "append"
  return d.changeSupers holder word (· ++ [p])

/-- Puts a reference at a place of a list of a holder. -/
def setSuper (d : Draft) (holder : Holder) (word : String) (index : Document) (p : Pointer) :
    Except Misfit Draft := do
  let position ← (← d.field holder word).placeToSet index
  return d.changeSupers holder word (·.set position p)

/-- The reference in a field of a holder, with its position there, which `use` needs. -/
def referenceIn (d : Draft) (holder : Holder) (word : String) (index : Document) (use : String) :
    Except Misfit (Nat × Pointer) := do
  let held ← d.field holder word
  let (position, found) ← if word == "type" then pure (0, held) else held.pick index
  match found with
  | .reference (some p) => return (position, p)
  | other => throw (.noField other.sortAsked use)

/-! ## Elements -/

/-- Puts an item in a list: at its end, or in front of the item at a position.  A position below zero
counts from the end, and one outside the list means the nearer end. -/
def insertAt {α : Type} (position : Option Int) (item : α) (items : List α) : List α :=
  match position with
  | none => items ++ [item]
  | some i =>
    let from0 := if i < 0 then i + items.length else i
    let (front, back) := items.splitAt from0.toNat
    front ++ item :: back

/-- Puts an element in a list of a package. -/
def insertInPackage (item : Element Handle Pointer) (position : Option Int)
    (p : Package Handle Pointer) : Package Handle Pointer :=
  match item with
  | .package child => { p with packages := insertAt position child p.packages }
  | .classifier child => { p with types := insertAt position child p.types }
  | _ => p

/-- Puts an element in a list of a type. -/
def insertInClassifier (branch : Branch) (item : Element Handle Pointer) (position : Option Int)
    (t : Classifier Handle Pointer) : Classifier Handle Pointer :=
  match branch, item with
  | .properties, .property child =>
    { t with body := t.body.changeProperties (insertAt position child) }
  | .ends, .property child => { t with body := t.body.changeEnds (insertAt position child) }
  | .operations, .operation child =>
    { t with body := t.body.changeOperations (insertAt position child) }
  | _, _ => t

/-- Puts an element in the list of an operation. -/
def insertInOperation (item : Element Handle Pointer) (position : Option Int)
    (o : Operation Handle Pointer) : Operation Handle Pointer :=
  match item with
  | .parameter child => { o with parameters := insertAt position child o.parameters }
  | _ => o

/-- Puts an element in a list of an element. -/
def insertInElement (d : Draft) (origin : Origin) (branch : Branch) (item : Element Handle Pointer)
    (position : Option Int) : Draft :=
  d.changeAll
    { package := fun p => if p.place.origin = origin then insertInPackage item position p else p
      classifier := fun t =>
        if t.place.origin = origin then insertInClassifier branch item position t else t
      operation := fun o => if o.place.origin = origin then insertInOperation item position o else o }

/-- Puts an element in a list of a holder, which must have the list. -/
def insert (d : Draft) (holder : Holder) (branch : Branch) (item : Element Handle Pointer)
    (position : Option Int) : Except Misfit Draft := do
  let _ ← d.branchOf holder branch
  match holder, item with
  | .model, .package child =>
    return { d with model := ⟨insertAt position child d.model.packages⟩ }
  | .model, _ => return d
  | .element origin, _ => return d.insertInElement origin branch item position

/-- Puts a declared element in a list of a holder. -/
def add (d : Draft) (holder : Holder) (branch : Branch) (item : Element Unit String)
    (position : Option Int) : Except Misfit Draft :=
  ({ d with additions := d.additions + 1 } : Draft).insert holder branch (d.newElement item) position

/-- Keeps a declared element aside, without putting it in the tree. -/
def addAside (d : Draft) (item : Element Unit String) : Draft :=
  ({ d with additions := d.additions + 1 } : Draft).keepAside (d.newElement item)

/-- The draft without an element, in its tree and aside. -/
def without (d : Draft) (origin : Origin) : Draft :=
  let stays (h : Handle) : Bool := h.origin != origin
  let cut : Change Handle Pointer :=
    { package := fun p =>
        { p with packages := p.packages.filter (stays ·.place), types := p.types.filter (stays ·.place) }
      classifier := fun t =>
        let body := ((t.body.changeProperties (·.filter (stays ·.place)))
          |>.changeOperations (·.filter (stays ·.place))) |>.changeEnds (·.filter (stays ·.place))
        { t with body := body }
      operation := fun o => { o with parameters := o.parameters.filter (stays ·.place) } }
  let after := d.changeAll cut
  { after with
    model := ⟨after.model.packages.filter (stays ·.place)⟩
    aside := after.aside.filter (stays ·.place) }

/-- Takes an element out of its list and keeps it aside. -/
def remove (d : Draft) (e : Element Handle Pointer) : Draft := (d.without e.place.origin).keepAside e

/-- Puts an element that is aside at the end of a list of a holder. -/
def putBack (d : Draft) (e : Element Handle Pointer) (holder : Holder) (branch : Branch) :
    Except Misfit Draft :=
  (d.without e.place.origin).insert holder branch e none

end ClassDiagram.Draft
