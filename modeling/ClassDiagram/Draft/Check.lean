import ClassDiagram.Draft.Inquiry
import ClassDiagram.Validation

/-!
# The check of a draft

The check of a model, on a draft.  It goes through the draft in the order of the findings, and stops where a
name is of a kind that has no letters or that nothing can be looked up by, or where a reference is missing.
-/

set_option autoImplicit false

namespace ClassDiagram.Draft

/-! ## Naming -/

/-- Whether a literal, if it counts, has letters. -/
def literalHasLetters (literal : Document) : Except Misfit Unit :=
  match literal with
  | .text _ => return
  | other => if other.isGiven then throw (.noField other.fullKindName "upper") else return

/-- Whether a name, if it counts, has a first letter that `use` can be done with. -/
def nameHasLetters (use : String) (name : Document) : Except Misfit Unit :=
  if name.isGiven then firstLetter use name else return

/-- Whether the names of a type and of its literals have letters. -/
def typeHasLetters (g : GivenAt) (t : LinkedType) : Except Misfit Unit := do
  if t.kind != .association then nameHasLetters "upper" (g.name t.key t.name)
  (← g.literals t).forM literalHasLetters

/-- Whether the name of a property or an operation has letters. -/
def featureHasLetters (g : GivenAt) (e : Element Place Link) : Except Misfit Unit :=
  match e with
  | .property _ | .operation _ => nameHasLetters "lower" (g.name e.place.key e.name)
  | _ => return

/-- Whether all names that there are conventions for have letters. -/
def namesHaveLetters (g : GivenAt) (m : Linked) : Except Misfit Unit := do
  m.model.types.forM (typeHasLetters g)
  m.model.elements.forM (featureHasLetters g)

/-! ## Duplicates -/

/-- Whether the names of items can be told apart. -/
def distinguishable (g : GivenAt) (items : List (String × Key)) : Except Misfit Unit :=
  items.forM fun (name, key) => discard (g.name key name).asKey

/-- Whether the names inside a type can be told apart. -/
def typeDistinguishable (g : GivenAt) (t : LinkedType) : Except Misfit Unit := do
  distinguishable g (Validation.propertyNames t.properties)
  distinguishable g (Validation.operationNames t.operations)
  distinguishable g (Validation.propertyNames t.ends)
  (← g.literals t).forM fun literal => discard literal.asKey

/-- Whether the names inside a package can be told apart. -/
def packageDistinguishable (g : GivenAt) (p : LinkedPackage) : Except Misfit Unit := do
  distinguishable g (Validation.packageNames p.packages)
  distinguishable g (Validation.typeNames p.types)
  p.types.forM (typeDistinguishable g)

/-- Whether the names in every scope can be told apart. -/
def scopesDistinguishable (g : GivenAt) (m : Linked) : Except Misfit Unit := do
  distinguishable g (Validation.packageNames m.model.packages)
  m.model.allPackages.forM (packageDistinguishable g)

/-! ## Cycles -/

/-- The element that a holder is. -/
def Holder.origin? : Holder → Option Origin
  | .model => none
  | .element origin => some origin

/-- The types of one kind and what their super references in a field lead to. -/
def kindGraph (d : Draft) (kind : Kind) (field : RefField) : SuperGraph Origin :=
  ⟨(d.model.ofKind kind).map (·.place.origin),
    (d.elements.filterMap asType).map fun t =>
      (t.place.origin,
        (t.supersIn field).map fun p => (d.targetOf t.place.origin field p).bind Holder.origin?)⟩

/-- Reads the super references of a type in a field. -/
def readSupers (d : Draft) (field : RefField) (origin : Origin) : Inquiry Unit :=
  match (d.element? origin).bind asType with
  | none => return
  | some t => d.readEach origin field (t.supersIn field) fun _ => return

/-- Reads the references that the search for cycles over a field reads. -/
def readGraph (d : Draft) (kind : Kind) (field : RefField) : Inquiry Unit :=
  let g := d.kindGraph kind field
  (g.nodes.flatMap g.nodesRead).forM (d.readSupers field)

/-- Reads the references that the search for cycles reads. -/
def readInheritance (d : Draft) : Inquiry Unit := do
  d.readGraph .classKind .superClasses
  d.readGraph .interface .superInterfaces

/-! ## Members -/

/-- Whether the members of a class can be told apart from its properties and from each other. -/
def membersDistinguishable (g : GivenAt) (m : Linked) (t : LinkedType) : Except Misfit Unit := do
  distinguishable g (Validation.propertyNames t.properties)
  distinguishable g ((m.associationMembers t).map fun r => (r.name, r.far.place.key))

/-! ## Findings -/

/-- Goes through a draft in the order of its check. -/
def inspect (d : Draft) (f : Forms) (reportReferences : Bool) : Inquiry Unit := do
  let m := f.linked
  let g := f.given
  .of (namesHaveLetters g m)
  .of (scopesDistinguishable g m)
  d.readInheritance
  d.readEnds
  .of (m.classes.forM (membersDistinguishable g m))
  if reportReferences then d.model.elements.forM d.readAll

/-- Whether a finding is about a convention for names. -/
def isConvention : Finding → Bool
  | .typeNameLowercase | .literalNotCapitals | .propertyNameCapital | .operationNameCapital => true
  | _ => false

/-- What was given where a finding is, if it does not fit there. -/
def givenWhere (g : GivenAt) (x : Diagnostic) : Option Document :=
  match g.values.lookup (x.target, x.field), x.index with
  | none, _ => none
  | some value, none => some value
  | some value, some i => value.parts?.bind fun parts => parts[i]?

/-- The findings that count: there are no conventions for names that do not count. -/
def counting (g : GivenAt) (found : List Diagnostic) : List Diagnostic :=
  found.filter fun x => !isConvention x.finding || (givenWhere g x).all (·.isGiven)

/-! ## Names as they are compared -/

/-- All that was given beside the tree, with its parts. -/
def GivenAt.known (g : GivenAt) : List Document :=
  g.values.flatMap fun (_, value) => value :: value.parts?.getD []

/-- What a value is compared by: a text by itself, any other value by its label. -/
def GivenAt.comparedBy (g : GivenAt) : Document → String
  | .text text => text
  | other => labelAmong g.known other

/-- What the name of an element is compared by. -/
def GivenAt.comparedName (g : GivenAt) (key : Key) (name : String) : String :=
  g.comparedBy (g.name key name)

/-- A type with its name, and its literals, as they are compared. -/
def GivenAt.comparedType (g : GivenAt) (t : LinkedType) : LinkedType :=
  let named := { t with name := g.comparedName t.key t.name }
  match t.body, g.literals t with
  | .enumeration _, .ok literals => { named with body := .enumeration (literals.map g.comparedBy) }
  | _, _ => named

/-- A model with all names as they are compared. -/
def GivenAt.compared (g : GivenAt) (m : Linked) : Linked :=
  let change : Change Place Link :=
    { package := fun p => { p with name := g.comparedName p.place.key p.name }
      classifier := g.comparedType
      property := fun p => { p with name := g.comparedName p.place.key p.name }
      operation := fun o => { o with name := g.comparedName o.place.key o.name } }
  { m with model := change.ofModel m.model }

/-- The text of what was given, where there is something. -/
def textIfGiven (value : Option Document) (text : String) : String :=
  (value.bind (·.display?)).getD text

/-- A finding about names as they are compared, with the names as they are shown.  The name of the element is
`own`. -/
def GivenAt.shownFinding (g : GivenAt) (own : String) (part : Option Document) : Finding → Finding
  | .duplicateName label _ => .duplicateName label own
  | .duplicateLiteral literal => .duplicateLiteral (textIfGiven part literal)
  | .endClashesWithProperty _ => .endClashesWithProperty own
  | .duplicateEnd _ owner =>
    .duplicateEnd own (textIfGiven (g.known.find? fun value => g.comparedBy value == owner) owner)
  | other => other

/-- A finding at an element as it is shown. -/
def GivenAt.shown (g : GivenAt) (x : Diagnostic) : Diagnostic :=
  let own := textIfGiven (g.values.lookup (x.target, "name")) x.targetName
  { x with targetName := own, finding := g.shownFinding own (givenWhere g x) x.finding }

/-- The findings about a draft. -/
def findings (d : Draft) (f : Forms) (reportReferences : Bool) : Inquiry (List Diagnostic) := do
  d.inspect f reportReferences
  let found := (f.given.compared f.linked).diagnostics reportReferences
  return (counting f.given found).map f.given.shown

end ClassDiagram.Draft
