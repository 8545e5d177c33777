import ClassDiagram.Java.Accessor
import ClassDiagram.Java.Page

/-!
# The Java source of a type

Java source for the types of a model: a class, an interface, a record for a data type, or an
enumeration.  A unit names its package, imports what it uses from elsewhere and holds one block.  Its imports
are collected before anything is written, so what is wrong with them is found first.
-/

set_option autoImplicit false

namespace ClassDiagram.Java

/-- A unit of Java code: its package, the names that it imports and its code. -/
structure CompilationUnit where
  package : String
  imports : Except Misfit (List Document)
  code : List Code

/-- The dotted name of the package of an element. -/
def packageName (home : List String) : String := joinedNames "." home

/-! ## Imports -/

/-- The import of lists. -/
def listImport : Document := .text "java.util.List"

/-- The import of the lists that fields are initialized with. -/
def listImplementationImport : Document := .text "java.util.ArrayList"

/-- The import of the views of lists. -/
def collectionsImport : Document := .text "java.util.Collections"

/-- Imports, or what is wrong with them. -/
abbrev Imports := Except Misfit (List Document)

/-- The imports for several elements, one after another. -/
def importsForEach {α : Type} (elements : List α) (f : α → Imports) : Imports :=
  (elements.mapM f).map List.flatten

/-- The import that a type table has for a primitive type. -/
def primitiveImport (table : TypeTable) (name : String) : Imports := do
  let target ← (table.nameFor (.text name)).asKey
  match table.importFor target with
  | none => return []
  | some value => if value.isGiven then return [← value.asKey] else return []

/-- The import for a type that is named in the package `own`. -/
def targetImport (table : TypeTable) (own : String) : Option Target → Imports
  | none => return []
  | some t =>
    if t.kind == .primitive then primitiveImport table t.name
    else
      let package := packageName t.home
      if package.isEmpty || package == own then return []
      else return [.text (package ++ "." ++ t.name)]

/-- The imports for an element with a type. -/
def importsFor (table : TypeTable) (own : String) (type : Option Link) (many : Bool) : Imports :=
  match type.bind (·.target) with
  | none => return []
  | some t => do
    let names ← targetImport table own (some t)
    return names ++ if many then [listImport] else []

/-- The imports for operations and their parameters. -/
def importsOfOperations (table : TypeTable) (own : String) (operations : List LinkedOperation) :
    Imports :=
  importsForEach operations fun o => do
    let names ← importsFor table own o.type o.isList
    return names ++ (← importsForEach o.parameters fun r => importsFor table own r.type r.isList)

/-- The imports for properties. -/
def importsOfProperties (table : TypeTable) (own : String) (properties : List LinkedProperty) :
    Imports :=
  importsForEach properties fun p => importsFor table own p.type p.isList

/-- The imports for super types. -/
def importsOfSupers (table : TypeTable) (own : String) (links : List Link) : Imports :=
  importsForEach links fun l => targetImport table own l.target

/-- The imports for the members that associations add to a class. -/
def importsOfMembers (table : TypeTable) (own : String) (members : List AssociationMember) :
    Imports :=
  importsForEach members fun m => do
    let names ← targetImport table own m.target
    return names ++
      if m.isList then [listImport, listImplementationImport, collectionsImport] else []

/-- The imports for the fields of a class that hold lists. -/
def fieldImports (properties : List LinkedProperty) : List Document :=
  if properties.any (·.isList) then [listImplementationImport] else []

/-! ## Pieces -/

/-- A clause of a header with the names it lists; nothing when there are none. -/
def clause (word : String) (names : List String) : String :=
  if names.isEmpty then "" else " " ++ word ++ " " ++ ", ".intercalate names

/-- The modifier for a visibility; package visibility has none. -/
def visibilityWord : Visibility → String
  | .publicAccess => "public"
  | .protectedAccess => "protected"
  | .privateAccess => "private"
  | .packageAccess => ""

/-- The modifier for a static feature. -/
def staticWord (isStatic : Bool) : String := if isStatic then "static" else ""

/-- The value that a field begins with. -/
def initialValue (many : Bool) : String := if many then " = new ArrayList<>()" else ""

/-- Types and names, with commas between them. -/
def typedNames (parts : List (Except Misfit Document × String)) : Except Misfit String := do
  let texts ← parts.mapM fun (type, name) => do
    return (← lineText (← type)) ++ " " ++ name
  return ", ".intercalate texts

/-- The types and names of parameters. -/
def parameterText (table : TypeTable) (ps : List (Parameter Place Link)) :
    Except Misfit String :=
  typedNames (ps.map fun p => (table.parameterType p, p.name))

/-- What an operation returns, its name and its parameters. -/
def operationHead (table : TypeTable) (o : LinkedOperation) : Except Misfit String := do
  let parameters ← parameterText table o.parameters
  let result ← lineText (← table.resultType o)
  return result ++ " " ++ o.name ++ "(" ++ parameters ++ ")"

/-- The comment of an operation; the tag says whether its body was written by hand. -/
def operationComment (o : LinkedOperation) : Code :=
  .comment o.description [if o.content.isGiven then "@generated NOT" else "@generated"]

/-- The body of an operation: what was written by hand, or an exception. -/
def operationBody (o : LinkedOperation) : List Code :=
  if o.content.isGiven then [.fragment o.content]
  else [.line "throw new UnsupportedOperationException();"]

/-! ## Classes -/

/-- The field of a property. -/
def propertyField (table : TypeTable) (p : LinkedProperty) : Code :=
  .ofLine do
    let type ← table.propertyType p
    let declaration ← joinWords [.text "private", .text (staticWord p.isStatic), type, .text p.name]
    return declaration ++ initialValue p.isList ++ ";"

/-- The field of a member of an association. -/
def memberField (table : TypeTable) (m : AssociationMember) : Code :=
  .ofLine do
    return "private " ++ (← typeOfMember table m) ++ " " ++ m.name ++ initialValue m.isList ++ ";"

/-- The getter and the setter of a property of a class. -/
def propertyAccessors (table : TypeTable) (owner : String) (p : LinkedProperty) : List Code :=
  let visibility := visibilityWord (p.visibility.getD .publicAccess)
  let holder := if p.isStatic then owner else "this"
  let header (returns : Document) (method : String) : Except Misfit String :=
    joinWords [.text visibility, .text (staticWord p.isStatic), returns, .text method]
  let getter : Except Misfit String := do
    return (← header (← table.propertyType p) (AccessorKind.get.method p.name)) ++ "()"
  let setter : Except Misfit String := do
    let words ← header (.text voidType) (AccessorKind.set.method p.name)
    return words ++ "(" ++ (← lineText (← table.propertyType p)) ++ " " ++ p.name ++ ")"
  [.blank,
    .ofBlock getter [.line ("return " ++ holder ++ "." ++ p.name ++ ";")],
    .blank,
    .ofBlock setter [.line (holder ++ "." ++ p.name ++ " = " ++ p.name ++ ";")]]

/-- An operation of a class; an abstract one has no body. -/
def classOperation (table : TypeTable) (o : LinkedOperation) : List Code :=
  let visibility := (o.visibility.map visibilityWord).getD ""
  let header (word : String) : Except Misfit String := do
    joinWords [.text visibility, .text word, .text (← operationHead table o)]
  [.blank, operationComment o,
    if o.isAbstract then .ofLine ((header "abstract").map (· ++ ";"))
    else .ofBlock (header (staticWord o.isStatic)) (operationBody o)]

/-- The header of a class. -/
def classHeader (t : LinkedType) (c : ClassBody Place Link) : Except Misfit String := do
  let words ← joinWords
    [.text "public", .text (if c.isAbstract then "abstract" else ""), .text "class", .text t.name]
  return words ++ clause "extends" (knownNames c.superClasses) ++
    clause "implements" (knownNames c.superInterfaces)

/-- What stands in the block of a class: fields, accessors and operations. -/
def classCode (table : TypeTable) (t : LinkedType) (c : ClassBody Place Link)
    (members : List AssociationMember) : List Code :=
  c.properties.map (propertyField table) ++ [.blank] ++
    members.map (memberField table) ++ [.blank] ++
    c.properties.flatMap (propertyAccessors table t.name) ++
    members.flatMap (accessorCode table) ++
    c.operations.flatMap (classOperation table)

/-- The unit of a class. -/
def classUnit (table : TypeTable) (t : LinkedType) (c : ClassBody Place Link)
    (members : List AssociationMember) : CompilationUnit :=
  let own := packageName t.place.home
  { package := own
    imports := do
      let superClasses ← importsOfSupers table own c.superClasses
      let superInterfaces ← importsOfSupers table own c.superInterfaces
      let properties ← importsOfProperties table own c.properties
      let members ← importsOfMembers table own members
      let operations ← importsOfOperations table own c.operations
      return superClasses ++ superInterfaces ++ properties ++ fieldImports c.properties ++ members ++
        operations
    code := [.ofBlock (classHeader t c) (classCode table t c members)] }

/-! ## Interfaces, records and enumerations -/

/-- The constant of a property of an interface. -/
def constantCode (table : TypeTable) (p : LinkedProperty) : Code :=
  .ofLine do
    let type ← lineText (← table.propertyType p)
    return type ++ " " ++ p.name ++ " = " ++ (if p.isList then "List.of()" else "null") ++ ";"

/-- An operation of an interface; only a static one has a body. -/
def interfaceOperation (table : TypeTable) (o : LinkedOperation) : List Code :=
  [.blank, operationComment o,
    if o.isStatic then .ofBlock ((operationHead table o).map ("static " ++ ·)) (operationBody o)
    else .ofLine ((operationHead table o).map (· ++ ";"))]

/-- The header of an interface. -/
def interfaceHeader (t : LinkedType) (c : InterfaceBody Place Link) : String :=
  "public interface " ++ t.name ++ clause "extends" (knownNames c.superInterfaces)

/-- The unit of an interface. -/
def interfaceUnit (table : TypeTable) (t : LinkedType) (c : InterfaceBody Place Link) :
    CompilationUnit :=
  let own := packageName t.place.home
  { package := own
    imports := do
      let superInterfaces ← importsOfSupers table own c.superInterfaces
      let properties ← importsOfProperties table own c.properties
      let operations ← importsOfOperations table own c.operations
      return superInterfaces ++ properties ++ operations
    code := [.block (interfaceHeader t c)
      (c.properties.map (constantCode table) ++
        c.operations.flatMap (interfaceOperation table))] }

/-- The unit of a data type. -/
def recordUnit (table : TypeTable) (t : LinkedType) (properties : List LinkedProperty) :
    CompilationUnit :=
  let own := packageName t.place.home
  let components := typedNames (properties.map fun p => (table.propertyType p, p.name))
  { package := own
    imports := importsOfProperties table own properties
    code := [.ofBlock (components.map fun cs => "public record " ++ t.name ++ "(" ++ cs ++ ")") []] }

/-- The lines of literals, with commas between them. -/
def literalLines : List String → List Code
  | [] => []
  | [last] => [.line last]
  | literal :: rest => .line (literal ++ ",") :: literalLines rest

/-- The header of an enumeration. -/
def enumerationHeader (t : LinkedType) : String := "public enum " ++ t.name

/-- The unit of an enumeration. -/
def enumerationUnit (t : LinkedType) (literals : List String) : CompilationUnit :=
  { package := packageName t.place.home
    imports := return []
    code := [.block (enumerationHeader t) (literalLines literals)] }

/-! ## Units -/

/-- How Java is generated: the indentation, the names of types and whether enumerations are written. -/
structure Settings where
  indent : Indent
  table : TypeTable
  writesEnumerations : Bool

/-- Whether there is a unit for a type: there is none for primitive types and associations. -/
def Settings.covers (s : Settings) (t : LinkedType) : Bool :=
  match t.kind with
  | .classKind => true
  | .interface => true
  | .datatype => true
  | .enumeration => s.writesEnumerations
  | .primitive => false
  | .association => false

/-- The unit of a type, if there is one. -/
def Settings.unit? (s : Settings) (m : Linked) (t : LinkedType) : Option CompilationUnit :=
  if s.covers t then
    match t.body with
    | .classBody c => some (classUnit s.table t c (m.associationMembers t))
    | .interface c => some (interfaceUnit s.table t c)
    | .datatype properties => some (recordUnit s.table t properties)
    | .enumeration literals => some (enumerationUnit t literals)
    | .primitive => none
    | .association _ => none
  else none

/-- A page after the package, the imports and the code of a unit. -/
def CompilationUnit.write (u : CompilationUnit) (indent : Indent) : Written := do
  let w := Page.start indent
  let imports ← w.expect u.imports
  let w ← w.package u.package
  let w ← w.imports imports
  w.writeAll u.code

/-- The page of a unit with all blocks closed. -/
def CompilationUnit.page (u : CompilationUnit) (indent : Indent) : Written := do
  let w ← u.write indent
  w.finish

/-- The text of a unit. -/
def CompilationUnit.text (u : CompilationUnit) (indent : Indent) :
    Except Misfit String :=
  ((u.page indent).map (·.text)).mapError (·.error)

/-- A generated file: the name of its type, its package, its path, its text and its type. -/
structure SourceFile where
  name : String
  package : String
  path : String
  text : String
  element : Key
  deriving Repr, DecidableEq

/-- The name of the file of a type. -/
def nameOfFile (name : String) : String := name ++ ".java"

/-- The path of the file of a type: the names of its packages and its own, with slashes. -/
def sourcePath (home : List String) (name : String) : String :=
  let directory := joinedNames "/" home
  if directory.isEmpty then nameOfFile name else directory ++ "/" ++ nameOfFile name

/-- The file of a type with a text. -/
def SourceFile.ofText (t : LinkedType) (text : String) : SourceFile :=
  ⟨t.name, packageName t.place.home, sourcePath t.place.home t.name, text, t.key⟩

/-- The file of a type, if there is one. -/
def Settings.source (s : Settings) (m : Linked) (t : LinkedType) :
    Except Misfit (Option SourceFile) :=
  match s.unit? m t with
  | none => return none
  | some u => do
    return some (.ofText t (← u.text s.indent))

/-- The files of all types of a model, or the first error. -/
def Settings.sources (s : Settings) (m : Linked) : Except Misfit (List SourceFile) := do
  let files ← m.model.types.mapM (s.source m)
  return files.filterMap id

end ClassDiagram.Java
