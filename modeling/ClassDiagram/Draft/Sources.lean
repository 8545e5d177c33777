import ClassDiagram.Draft.Inquiry
import ClassDiagram.Java.Source

/-!
# The Java files of a draft

The files of the types of a draft.  What is imported is looked at first, then the code is laid out; a name
that is no text stops the writing at the place where a text is needed, and counts as its display elsewhere.
-/

set_option autoImplicit false

namespace ClassDiagram.Draft

open Java (Code)

/-! ## Imports -/

/-- Whether the import of what a reference leads to can be formed. -/
def importFits (d : Draft) (target : Option Holder) : Except Misfit Unit :=
  match target with
  | some (.element origin) =>
    match d.element? origin with
    | some (.classifier t) =>
      if t.kind == .primitive then discard (d.nameGiven (.classifier t)).asKey
      else discard (d.homeTexts (.element origin))
    | _ => discard (d.homeTexts (.element origin))
  | _ => return

/-- Reads the type of an element for its import. -/
def readImport (d : Draft) (h : Handle) (type : Option Pointer) : Inquiry Unit := do
  .of (d.importFits (← d.readType h type))

/-- Reads super references for their imports and names. -/
def readSuperImports (d : Draft) (t : Classifier Handle Pointer) (field : RefField) : Inquiry Unit :=
  d.readEach t.place.origin field (t.supersIn field) fun target => do
    .of (d.importFits target)
    if target == some .model then discard (.of (d.nameHeld .model))

/-- Reads the types of an operation and of its parameters for their imports. -/
def readOperationImports (d : Draft) (o : Operation Handle Pointer) : Inquiry Unit := do
  d.readImport o.place o.type
  o.parameters.forM fun r => d.readImport r.place r.type

/-- Reads what the file of a type imports, where `members` are what associations add to it. -/
def readImports (d : Draft) (f : Forms) (members : List AssociationMember)
    (t : Classifier Handle Pointer) : Inquiry Unit := do
  discard (.of (d.homeTexts (.element t.place.origin)))
  d.readSuperImports t .superClasses
  d.readSuperImports t .superInterfaces
  t.properties.forM fun p => d.readImport p.place p.type
  members.forM fun m => .of (d.importFits (m.target.bind fun t => d.holderAt? f.positions t.key))
  t.operations.forM d.readOperationImports

/-! ## Types of elements -/

/-- The name of a target as it was given; the model has one only if it was given. -/
def targetName (g : GivenAt) (t : Target) : Except Misfit Document :=
  if t.key = .inside [] && (g.values.lookup (t.key, "name")).isNone then
    throw (.noField "UmlModel" "name")
  else return g.name t.key t.name

/-- What the type of an element is written as: a text, or what was given for its name. -/
def typeWord (g : GivenAt) (table : TypeTable) (type : Option Link) (many : Bool) :
    Except Misfit Document := do
  match type.bind (·.target) with
  | none => return .text ""
  | some t =>
    let name ← targetName g t
    let word ← if t.kind == .primitive then name.asKey.map table.nameFor else pure name
    if !word.isGiven then return .text ""
    else if many then (listType word).map .text
    else return word

/-- Whether the types of an operation and of its parameters can be written. -/
def operationFits (g : GivenAt) (table : TypeTable) (o : LinkedOperation) : Except Misfit Unit := do
  o.parameters.forM fun r => discard (typeWord g table r.type r.isList)
  discard (typeWord g table o.type o.isList)

/-! ## Pieces -/

/-- Code that is written where nothing is in the way. -/
def guarded (check : Except Misfit Unit) (code : List Code) : List Code :=
  match check with
  | .ok _ => code
  | .error e => [.unwritable e]

/-- Whether the names of super types are texts. -/
def supersFit (g : GivenAt) (links : List Link) : Except Misfit Unit := do
  let names := links.filterMap fun l => l.target.map fun t => g.name t.key t.name
  discard (wordTexts 0 names)

/-- Whether the header of a class can be formed. -/
def classHeaderFits (g : GivenAt) (t : LinkedType) (c : ClassBody Place Link) :
    Except Misfit Unit := do
  discard (joinWords [.text "public", .text (if c.isAbstract then "abstract" else ""), .text "class",
    g.name t.key t.name])
  supersFit g c.superClasses
  supersFit g c.superInterfaces

/-- Whether the field of a property can be formed. -/
def fieldFits (g : GivenAt) (table : TypeTable) (p : LinkedProperty) : Except Misfit Unit := do
  let type ← typeWord g table p.type p.isList
  discard (joinWords [.text "private", .text (Java.staticWord p.isStatic), type,
    g.name p.place.key p.name])

/-- Whether the type of a member has a name. -/
def memberFits (g : GivenAt) (m : AssociationMember) : Except Misfit Unit :=
  match m.target with
  | none => return
  | some t => discard (targetName g t)

/-- Whether the names of the accessors of a member, and of those that they call, can be formed. -/
def accessorsFit (g : GivenAt) (m : AssociationMember) : Except Misfit Unit := do
  accessorName (g.name m.far.place.key m.name)
  if m.isBidirectional then accessorName (g.name m.opposite.place.key m.opposite.name)

/-- Whether a text can follow a value. -/
def canBeFollowed : Document → Except Misfit Unit
  | .text _ => return
  | .list _ => throw (.notAppended "list" "str")
  | other => throw (.noSum other.fullKindName "str")

/-- Code of an operation, of which the part behind the comment may have something in its way. -/
def operationCode (g : GivenAt) (table : TypeTable) (o : LinkedOperation) (code : List Code) :
    List Code :=
  code.take 2 ++ guarded (operationFits g table o) (code.drop 2)

/-! ## Units -/

/-- What stands in the block of a class. -/
def classCode (g : GivenAt) (table : TypeTable) (t : LinkedType) (c : ClassBody Place Link)
    (members : List AssociationMember) : List Code :=
  c.properties.flatMap (fun p => guarded (fieldFits g table p) [Java.propertyField table p]) ++
    [.blank] ++
    members.flatMap (fun m => guarded (memberFits g m) [Java.memberField table m]) ++ [.blank] ++
    c.properties.flatMap (fun p =>
      guarded (accessorName (g.name p.place.key p.name)) (Java.propertyAccessors table t.name p)) ++
    members.flatMap (fun m => guarded (accessorsFit g m) (Java.accessorCode table m)) ++
    c.operations.flatMap (fun o => operationCode g table o (Java.classOperation table o))

/-- What stands in the block of an interface. -/
def interfaceCode (g : GivenAt) (table : TypeTable) (c : InterfaceBody Place Link) : List Code :=
  c.properties.flatMap (fun p =>
      guarded (discard (typeWord g table p.type p.isList)) [Java.constantCode table p]) ++
    c.operations.flatMap (fun o => operationCode g table o (Java.interfaceOperation table o))

/-- What stands in the block of an enumeration. -/
def enumerationCode (g : GivenAt) (t : LinkedType) (literals : List String) : List Code :=
  guarded (do (← g.literals t).forM canBeFollowed) (Java.literalLines literals)

/-- The code of a type. -/
def codeOf (g : GivenAt) (table : TypeTable) (members : List AssociationMember) (t : LinkedType) :
    List Code :=
  match t.body with
  | .classBody c =>
    [.ofBlock (do classHeaderFits g t c; Java.classHeader t c) (classCode g table t c members)]
  | .interface c =>
    [.ofBlock (do supersFit g c.superInterfaces; return Java.interfaceHeader t c)
      (interfaceCode g table c)]
  | .datatype properties =>
    guarded (properties.forM fun p => discard (typeWord g table p.type p.isList))
      (Java.recordUnit table t properties).code
  | .enumeration literals => [.block (Java.enumerationHeader t) (enumerationCode g t literals)]
  | _ => []

/-! ## Files -/

/-- The file of a type, if there is one. -/
def sourceOf (d : Draft) (s : Java.Settings) (f : Forms) (t : TypeForms) :
    Inquiry (Option Java.SourceFile) :=
  match s.unit? f.linked t.linked with
  | none => return none
  | some u => do
    let members := f.linked.associationMembers t.linked
    d.readImports f members t.own
    let unit := { u with code := codeOf f.given s.table members t.quiet }
    let text ← .of (unit.text s.indent)
    .of (canBeFollowed (f.given.name t.linked.key t.linked.name))
    return some (.ofText t.linked text)

end ClassDiagram.Draft
