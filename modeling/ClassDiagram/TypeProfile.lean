import ClassDiagram.Document.Json
import ClassDiagram.Document.Mapping
import ClassDiagram.Model.Loading
import ClassDiagram.Yaml.Reader

/-!
# Type profiles

What the primitive types of a model are called in the generated code, and what has to be imported for a
name.  Profiles are laid over each other, the later ones in front, and over the table that a
configuration gives; an overridden entry keeps its place.  Names and what they stand for are values of a
document, which need not be texts.
-/

set_option autoImplicit false

namespace ClassDiagram

/-- A table from names to values, in the order of first appearance of the names. -/
abbrev Table := List (Document × Document)

namespace Table

/-- Sets the values of all names of another table. -/
def update (table other : Table) : Table :=
  other.foldl (fun t (name, value) => Document.insertEntry name value t) table

/-- The value of a name. -/
def get? (table : Table) (name : Document) : Option Document := Document.valueAt? name table

end Table

/-- A type table: what the primitive types of a model are called in generated code, and what is to be
imported for a name there. -/
structure TypeTable where
  aliases : Table
  imports : Table
  deriving Repr, BEq

/-- A profile: names of primitive types and imports of names. -/
structure TypeProfile where
  aliases : Table
  imports : Table
  deriving Repr

/-- Why profiles make no type table. -/
inductive ProfileError where
  | noFile (name : String)
  /-- The name of a file is no text. -/
  | notPath (kind : String)
  /-- The name of a file is a number, below or above those that can stand for files. -/
  | notFileNumber (isBelow : Bool)
  | notMapping (name : String)
  | malformedJson
  | malformedYaml
  | tooDeep
  /-- The lists, or the mappings, of a JSON text nest too deep. -/
  | nestedTooDeep (isList : Bool)
  | value (fault : Yaml.ValueFault)
  /-- A value does not fit its use. -/
  | misfit (cause : Misfit)
  deriving Repr, DecidableEq

/-- The wording of an error; malformed files have none. -/
def ProfileError.message : ProfileError → String
  | noFile name => "Type profile file not found: " ++ name
  | notPath kind => "stat: path should be string, bytes, os.PathLike or integer, not " ++ kind
  | notFileNumber isBelow => if isBelow then "fd is less than minimum" else "fd is greater than maximum"
  | notMapping name => "Type profile must be a mapping: " ++ name
  | malformedJson => ""
  | malformedYaml => ""
  | tooDeep => tooDeepMessage
  | nestedTooDeep isList =>
    let collection := if isList then "array" else "object"
    s!"{tooDeepMessage} while decoding a JSON {collection} from a unicode string"
  | value fault => fault.message
  | misfit cause => cause.message

/-- What a use of a value gives. -/
def orProfileError {α : Type} (x : Except Misfit α) : Except ProfileError α := x.mapError .misfit

namespace TypeTable

/-- The type table without entries. -/
def empty : TypeTable := ⟨[], []⟩

/-- Lays a profile over a type table. -/
def merge (r : TypeTable) (p : TypeProfile) : TypeTable :=
  ⟨r.aliases.update p.aliases, r.imports.update p.imports⟩

/-- The type table of profiles, the later ones in front. -/
def ofProfiles (profiles : List TypeProfile) : TypeTable := profiles.foldl merge empty

/-- What a name stands for: its alias or itself. -/
def nameFor (r : TypeTable) (name : Document) : Document := (r.aliases.get? name).getD name

/-- What a name stands for, if it is one to look up by. -/
def resolve (r : TypeTable) (name : Document) : Except Misfit Document := name.asKey.map r.nameFor

/-- What is to be imported for a name. -/
def importFor (r : TypeTable) (name : Document) : Option Document := r.imports.get? name

/-- Lays a type table over another one. -/
def update (r other : TypeTable) : TypeTable :=
  ⟨r.aliases.update other.aliases, r.imports.update other.imports⟩

end TypeTable

namespace TypeProfile

/-- The table in a field of a profile; nothing if it is not given. -/
def tableIn (fields : Fields) (key : String) : Except ProfileError Table :=
  let value := Loading.field fields key
  if value.isGiven then orProfileError value.asEntries else return []

/-- The profile that a mapping gives. -/
def ofDocument (d : Document) : Except ProfileError TypeProfile :=
  match d.fields? with
  | some fields => do
    let aliases ← tableIn fields "aliases"
    let imports ← tableIn fields "imports"
    return ⟨aliases, imports⟩
  | none => throw (.misfit (.noField d.fullKindName "get"))

/-- The document in the text of a profile file. -/
def readText (name text : String) : Except ProfileError Document :=
  if Loading.isYamlName name then
    match Yaml.readStream text with
    | .ok document => return if document.isGiven then document else .map []
    | .error .malformed => throw .malformedYaml
    | .error .tooDeep => throw .tooDeep
    | .error (.value fault) => throw (.value fault)
  else
    match Json.read .lenient text with
    | .ok document => return document
    | .error .malformed => throw .malformedJson
    | .error (.tooDeep isList) => throw (.nestedTooDeep isList)
    | .error (.tooManyDigits count) => throw (.misfit (.tooManyDigits count))

/-- The mapping in a profile file. -/
def readFile (files : FileTree) (name : String) : Except ProfileError Document :=
  match files.find name with
  | .error _ => throw (.noFile name)
  | .ok octets => do
    let document ← readText name (String.ofList (Text.withUnixLineEnds octets.toList))
    if document.fields?.isSome then return document else throw (.notMapping name)

end TypeProfile

/-- The numbers that can stand for files are those below this one, and as many below zero. -/
def fileNumbers : Int := Nat.pow 2 31

namespace TypeTable

/-- The type table of the profiles in a list, in their order; nothing if there is none. -/
def ofDocument (d : Document) : Except ProfileError TypeTable :=
  if d.isGiven then do
    let profiles ← (← orProfileError d.asParts).mapM TypeProfile.ofDocument
    return ofProfiles profiles
  else return empty

/-- The type table of profile files, in the order of their names; names that are not given are skipped. -/
def ofFiles (files : FileTree) (names : Document) : Except ProfileError TypeTable := do
  let names := (← orProfileError names.asParts).filter (·.isGiven)
  let documents ← names.mapM fun name =>
    match name with
    | .text name => TypeProfile.readFile files name
    | .int n =>
      if -fileNumbers ≤ n && n < fileNumbers then throw (.noFile (toString n))
      else throw (.notFileNumber (n < 0))
    | .bool _ => throw (.noFile (name.display?.getD ""))
    | other => throw (.notPath other.kindName)
  let profiles ← documents.mapM TypeProfile.ofDocument
  return ofProfiles profiles

end TypeTable

/-- The names of primitive types unless a configuration says otherwise. -/
def standardPrimitives : Table :=
  [("Decimal", "Double"), ("String", "String"), ("Boolean", "Boolean"), ("Integer", "Integer")].map
    fun (name, target) => (.text name, .text target)

/-- The type table of the standard names. -/
def TypeTable.default : TypeTable := ⟨standardPrimitives, []⟩

end ClassDiagram
