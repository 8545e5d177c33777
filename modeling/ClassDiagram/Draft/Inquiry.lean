import ClassDiagram.Document.Mapping
import ClassDiagram.Draft.Route
import ClassDiagram.Draft.View
import ClassDiagram.Layout

/-!
# Inquiries into a draft

What is asked of a draft may have no answer: a reference may be missing, or a value of another kind than
its place needs may be in the way.  An inquiry goes through a draft in a fixed order until it has its answer
or meets such an obstacle, and keeps what references it has read on the way.
-/

set_option autoImplicit false

namespace ClassDiagram.Draft

/-- An inquiry: an answer or what is in the way of it, and the references read so far. -/
abbrev Inquiry (α : Type) := ExceptT Misfit (StateM (List Spot)) α

/-- The answer of an inquiry, and the draft after the references were read. -/
def ask {α : Type} (d : Draft) (q : Inquiry α) : Except Misfit α × Draft :=
  let (answer, spots) := q.run []
  (answer, d.settle fun origin field i => spots.contains ⟨origin, field, i⟩)

/-- What is known without reading a reference. -/
def Inquiry.of {α : Type} (x : Except Misfit α) : Inquiry α := ExceptT.mk (pure x)

/-! ## Names -/

/-- The names of a draft as they were given. -/
def nameHeld (d : Draft) : Holder → Except Misfit Document
  | .model =>
    match d.given? .model "name" with
    | some name => return name
    | none => throw (.noField (d.holderSort .model) "name")
  | .element origin => return ((d.element? origin).map d.nameGiven).getD (.text "")

/-- The names of the packages around a holder, the outermost first; each must be a text. -/
def homeTexts (d : Draft) (holder : Holder) : Except Misfit (List String) :=
  wordTexts 0 ((d.packagesAround holder).map fun p => d.nameGiven (.package p))

/-- Whether `use` can be done with the first letter of a name. -/
def firstLetter (use : String) : Document → Except Misfit Unit
  | .text _ => return
  | .list _ => throw (.noField "list" use)
  | .map _ => throw (.notKey "slice")
  | other => throw (.noPlaces other.fullKindName)

/-- Whether the name of an accessor can be made from a name. -/
def accessorName (name : Document) : Except Misfit Unit := firstLetter "upper" name

/-! ## The index -/

/-- The names that the index is made of. -/
def indexedNames (d : Draft) : List Document :=
  d.model.allPackages.flatMap fun p =>
    d.nameGiven (.package p) :: p.types.map fun t => d.nameGiven (.classifier t)

/-- Whether there is an index or one can be made: each name must be one to look up by. -/
def indexed (d : Draft) : Except Misfit Unit :=
  if d.index.isSome then return else d.indexedNames.forM fun name => discard name.asKey

/-! ## References -/

/-- Whether the name of a reference of an element can be looked up. -/
def nameFits (d : Draft) (owner : Origin) : Document → Except Misfit Unit
  | .text name => if d.usesIndex (.element owner) name then d.indexed else return
  | other =>
    if other.isGiven && d.isInModel (some (.element owner)) then
      throw (.notSearched other.fullKindName)
    else return

/-- Reads a reference. -/
def read (d : Draft) (owner : Origin) (field : RefField) (index : Nat) (p : Pointer) :
    Inquiry (Option Holder) := do
  if p.isAbsent then throw (.noField "NoneType" "ref")
  if p.isOpen then .of (d.nameFits owner p.name)
  modify (⟨owner, field, index⟩ :: ·)
  return d.targetOf owner field p

/-- Reads the type of an element. -/
def readType (d : Draft) (h : Handle) (type : Option Pointer) : Inquiry (Option Holder) :=
  match type with
  | none => return none
  | some p => d.read h.origin .type 0 p

/-- Reads references in a field of an element, each with what is done next with its target. -/
def readEach (d : Draft) (owner : Origin) (field : RefField) (ps : List Pointer)
    (next : Option Holder → Inquiry Unit) : Inquiry Unit :=
  ps.zipIdx.forM fun (p, i) => do next (← d.read owner field i p)

/-- Reads all references of an element, those that are missing left out. -/
def readPresent (d : Draft) (e : Element Handle Pointer) : Inquiry Unit :=
  e.references.forM fun (field, i, p) => do
    unless p.isAbsent do discard (d.read e.place.origin field i p)

/-- Reads all references of an element. -/
def readAll (d : Draft) (e : Element Handle Pointer) : Inquiry Unit :=
  e.references.forM fun (field, i, p) => discard (d.read e.place.origin field i p)

/-- Reads the types at the ends of all associations. -/
def readEnds (d : Draft) : Inquiry Unit :=
  ((d.model.ofKind .association).flatMap (·.ends)).forM fun e => discard (d.readType e.place e.type)

end ClassDiagram.Draft
