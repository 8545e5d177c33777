import ClassDiagram.Document.Json
import ClassDiagram.Document.Misfit
import ClassDiagram.FileTree
import ClassDiagram.Model.Basic
import ClassDiagram.Text.Case
import ClassDiagram.Text.Lines
import ClassDiagram.Yaml.Reader

/-!
# Models from documents

The root of a document is a mapping with a list of packages; packages hold packages and types, and types
hold their features.  What a document gets wrong is reported with the path of the element that is being
read.  The first fault in the order of reading is the one reported.  A collection that contains itself is read
like any other, layer by layer; packages must end somewhere.
-/

set_option autoImplicit false

namespace ClassDiagram

/-- What a document can get wrong. -/
inductive LoadProblem where
  | notMapping (kind : String)
  | notList (key : String)
  | missingName
  | referenceNotText (kind : String)
  | emptyEntry (key : String)
  | unknownVisibility (value : String)
  | unknownAggregation (value : String)
  | unknownKind (value : String)
  | boundsNotIntegers
  | invalidBound (text : String)
  | invalidMultiplicity (text : String)
  | unboundedLower (text : String)
  | unsupportedFormat (format : String)
  | malformed (format : String)
  deriving Repr, DecidableEq

/-- The wording of a problem. -/
def LoadProblem.message : LoadProblem → String
  | notMapping kind => "Expected a mapping, got " ++ kind
  | notList key => s!"'{key}' must be a list"
  | missingName => "Missing 'name'"
  | referenceNotText kind => "Type reference must be a string, got " ++ kind
  | emptyEntry key => s!"Empty entry in '{key}'"
  | unknownVisibility value => s!"Unknown visibility '{value}'"
  | unknownAggregation value => s!"Unknown aggregation '{value}'"
  | unknownKind value => s!"Unknown type kind '{value}'"
  | boundsNotIntegers => "'lower' and 'upper' must be integers"
  | invalidBound text => s!"Invalid bound '{text}'"
  | invalidMultiplicity text => s!"Invalid multiplicity '{text}'"
  | unboundedLower text => s!"Lower bound cannot be unbounded in '{text}'"
  | unsupportedFormat format => s!"Unsupported document format '{format}'"
  | malformed format => s!"Malformed {format} document"

/-- A message with the place that it is about in front, if there is one. -/
def placed (path message : String) : String :=
  if path.isEmpty then message else path ++ ": " ++ message

/-- Why no model comes of a document. -/
inductive LoadError where
  /-- The document is refused, at a path in it and for a file if it came from one. -/
  | refused (file path : String) (problem : LoadProblem)
  /-- A value does not fit its use. -/
  | misfit (cause : Misfit)
  /-- Packages, or the collections of a text, nest too deep. -/
  | tooDeep
  /-- A scalar of the text has no value. -/
  | value (fault : Yaml.ValueFault)
  /-- There is no such file. -/
  | noFile (name : String) (fault : FileFault)
  deriving Repr, DecidableEq

/-- The wording for a scalar without a value. -/
def Yaml.ValueFault.message : Yaml.ValueFault → String
  | yearRange year => s!"year {year} is out of range"
  | monthRange => "month must be in 1..12"
  | dayRange => "day is out of range for month"
  | hourRange => "hour must be in 0..23"
  | minuteRange => "minute must be in 0..59"
  | secondRange => "second must be in 0..59"
  | zoneRange minutes =>
    "offset must be a timedelta strictly between -timedelta(hours=24) and timedelta(hours=24), not " ++
      spanText minutes ++ "."
  | notInteger base text => notIntegerMessage base text
  | tooManyDigits count => tooManyDigitsMessage count
  | notFloat text => "could not convert string to float: " ++ Text.quoted text
  | placeRange => "int too large to convert to float"
  | notTruthValue word => word
  | notTimestamp => "'NoneType' object has no attribute 'groupdict'"
  | mappingAsTimestamp => "expected string or bytes-like object, got 'list'"
  | noDigits => "string index out of range"
  | characterRange => "chr() arg not in range(0x110000)"
  | characterSize => "Python int too large to convert to C int"

/-- The wording for what nests too deep. -/
def tooDeepMessage : String := "maximum recursion depth exceeded"

/-- The wording of an error. -/
def LoadError.message : LoadError → String
  | refused file path problem => placed file (placed path problem.message)
  | misfit cause => cause.message
  | tooDeep => tooDeepMessage
  | value fault => fault.message
  | noFile name fault => fault.message name

namespace Loading

/-- Reading gives a value or the first error. -/
abbrev Result (α : Type) := Except LoadError α

/-- Refuses a document at a path. -/
def refuse {α : Type} (path : String) (problem : LoadProblem) : Result α :=
  throw (.refused "" path problem)

/-- The text of a value. -/
def shown (value : Document) : Result String :=
  match value.display? with
  | some text => return text
  | none => throw (.misfit .unwritten)

/-- The fields of a mapping. -/
def mapping (path : String) (node : Document) : Result Fields :=
  match node.fields? with
  | some fields => return fields
  | none => refuse path (.notMapping node.kindName)

/-- The value of a field, null when it is absent. -/
def field (fields : Fields) (key : String) : Document :=
  (fields.get? key).getD .null

/-- The items of a field that holds a list; none when the field is absent or null. -/
def sequence (path : String) (fields : Fields) (key : String) :
    Result (List Document) :=
  match (field fields key).reveal with
  | .null => return []
  | .list items => return items
  | _ => refuse path (.notList key)

/-- The name of an element: a text that is not empty. -/
def nameOf (path : String) (fields : Fields) : Result String :=
  match field fields "name" with
  | .text name => if name.isEmpty then refuse path .missingName else return name
  | _ => refuse path .missingName

/-- A reference to a type by name, if there is one. -/
def referenceOf (path : String) : Document → Result (Option String)
  | .null => return none
  | .text name => return some name
  | other => refuse path (.referenceNotText other.kindName)

/-- A visibility, if one is given; capitals do not count. -/
def visibilityOf (path : String) : Document → Result (Option Visibility)
  | .null => return none
  | value => do
    let word ← shown value
    match Visibility.ofWord? (Text.lower word) with
    | some visibility => return some visibility
    | none => refuse path (.unknownVisibility word)

/-- An aggregation; none is given for a plain one. -/
def aggregationOf (path : String) : Document → Result Aggregation
  | .null => return .plain
  | value => do
    let word ← shown value
    match Aggregation.ofWord? (Text.lower word) with
    | some aggregation => return aggregation
    | none => refuse path (.unknownAggregation word)

/-- The error for a text that gives no bounds. -/
def boundError (path text : String) : BoundFault → LoadError
  | .invalidMultiplicity => .refused "" path (.invalidMultiplicity text)
  | .unboundedLower => .refused "" path (.unboundedLower text)
  | .invalidBound => .refused "" path (.invalidBound text)
  | .notDecimal digits => .misfit (.notInteger 10 digits)
  | .tooManyDigits count => .misfit (.tooManyDigits count)
  | .unwritten => .misfit .unwritten

/-- The bounds that a value gives as a multiplicity. -/
def multiplicity (path : String) (value : Document) : Result (Int × Int) :=
  (multiplicityOf value).mapError (boundError path (value.display?.getD ""))

/-- A bound that is an integer or a truth value. -/
def boundOf? : Document → Option Bound
  | .int n => some (.number n)
  | .bool b => some (.flag b)
  | _ => none

/-- The bounds of a feature: a multiplicity, or a lower and an upper bound that are one when they are
absent.  The upper bound may be a text. -/
def bounds (path : String) (fields : Fields) : Result (Bound × Bound) :=
  match fields.get? "multiplicity" with
  | some value => do
    let (lower, upper) ← multiplicity path value
    return (.number lower, .number upper)
  | none => do
    let lower := (fields.get? "lower").getD (.int 1)
    let upper ← match (fields.get? "upper").getD (.int 1) with
      | .text text =>
        let trimmed := Text.trim text
        let n ← (readBound trimmed.toList).mapError (boundError path trimmed)
        pure (Document.int n)
      | other => pure other
    match boundOf? lower, boundOf? upper with
    | some lower, some upper => return (lower, upper)
    | _, _ => refuse path .boundsNotIntegers

/-- Whether a field is given with a value that counts. -/
def flag (fields : Fields) (key : String) : Bool := (field fields key).isGiven

/-- A property. -/
def propertyOf (path : String) (node : Document) : Result (Property Unit String) := do
  let fields ← mapping path node
  let (lower, upper) ← bounds path fields
  let name ← nameOf path fields
  let type ← referenceOf path (field fields "type")
  let visibility ← visibilityOf path (field fields "visibility")
  let aggregation ← aggregationOf path (field fields "aggregation")
  return ⟨(), name, type, lower, upper, visibility, flag fields "static", aggregation⟩

/-- A parameter. -/
def parameterOf (path : String) (node : Document) : Result (Parameter Unit String) := do
  let fields ← mapping path node
  let name ← nameOf path fields
  let type ← referenceOf path (field fields "type")
  return ⟨(), name, type, .number 1⟩

/-- An operation. -/
def operationOf (path : String) (node : Document) : Result (Operation Unit String) := do
  let fields ← mapping path node
  let name ← nameOf path fields
  let (lower, upper) ← bounds path fields
  let type ← referenceOf path (field fields "type")
  let parameters ← (← sequence path fields "params").mapM (parameterOf (path ++ "/" ++ name))
  let visibility ← visibilityOf path (field fields "visibility")
  return ⟨(), name, type, lower, upper, parameters, visibility, flag fields "static",
    flag fields "abstract", field fields "description", field fields "content"⟩

/-- The references in a list. -/
def referencesOf (path : String) (fields : Fields) (key : String) :
    Result (List String) := do
  (← sequence path fields key).mapM fun value => do
    match ← referenceOf path value with
    | some name => return name
    | none => refuse path (.emptyEntry key)

/-- The words for the kinds of types. -/
def kindWords : List (String × Kind) :=
  [("class", .classKind), ("interface", .interface), ("datatype", .datatype), ("dt", .datatype),
    ("primitive", .primitive), ("pt", .primitive), ("enumeration", .enumeration),
    ("enum", .enumeration), ("association", .association)]

/-- The kind of a type; capitals do not count. -/
def kindOf (path : String) (fields : Fields) : Result Kind := do
  let word ← shown ((fields.get? "kind").getD (.text ""))
  match kindWords.lookup (Text.lower word) with
  | some kind => return kind
  | none => refuse path (.unknownKind (← shown (field fields "kind")))

/-- What a type of a kind declares, with its properties and operations; they are kept where the kind has them. -/
def bodyOf (path : String) (fields : Fields) (properties : List (Property Unit String))
    (operations : List (Operation Unit String)) : Kind → Result (Body Unit String)
  | .classKind => do
    let superClasses ← referencesOf path fields "superClasses"
    let superInterfaces ← referencesOf path fields "superInterfaces"
    return .classBody ⟨flag fields "abstract", properties, operations, superClasses, superInterfaces⟩
  | .interface => do
    let superInterfaces ← referencesOf path fields "superInterfaces"
    return .interface ⟨properties, operations, superInterfaces⟩
  | .datatype => return .datatype properties
  | .primitive => return .primitive
  | .enumeration => do
    let literals ← (← sequence path fields "literals").mapM shown
    return .enumeration literals
  | .association => do
    let ends ← (← sequence path fields "ends").mapM (propertyOf path)
    return .association ends

/-- A type.  Properties and operations are read for every kind. -/
def typeOf (path : String) (node : Document) : Result (Classifier Unit String) := do
  let fields ← mapping path node
  let name ← nameOf path fields
  let here := path ++ "/" ++ name
  let kind ← kindOf here fields
  let properties ← (← sequence here fields "properties").mapM (propertyOf here)
  let operations ← (← sequence here fields "operations").mapM (operationOf here)
  let body ← bodyOf here fields properties operations kind
  return ⟨(), name, body⟩

/-- How deep packages may nest. -/
def deepestPackage : Nat := 490

/-- A package with all that it holds, where packages may nest a number of times more. -/
def packageWithin (depth : Nat) (path : String) (node : Document) : Result (Package Unit String) :=
  match depth with
  | 0 => throw .tooDeep
  | depth + 1 => do
    let fields ← mapping path node
    let name ← nameOf path fields
    let here := if path.isEmpty then name else path ++ "/" ++ name
    let packages ← (← sequence here fields "packages").mapM (packageWithin depth here)
    let types ← (← sequence here fields "types").mapM (typeOf here)
    return ⟨(), name, packages, types⟩

/-- A package with all that it holds. -/
def packageOf (path : String) (node : Document) : Result (Package Unit String) :=
  packageWithin deepestPackage path node

/-- The model that a document declares, where packages may nest a number of times. -/
def modelWithin (depth : Nat) (root : Document) : Result Declared := do
  let fields ← mapping "" root
  let packages ← (← sequence "" fields "packages").mapM (packageWithin depth "")
  return ⟨packages⟩

/-- The model that a document declares. -/
def modelOf (root : Document) : Result Declared := modelWithin deepestPackage root

/-- The formats of documents. -/
inductive Format where
  | json
  | yaml
  deriving Repr, DecidableEq

/-- The format with a name, in lower case. -/
def Format.ofName? (name : String) : Option Format :=
  if name == "json" then some .json
  else if name == "yaml" || name == "yml" then some .yaml
  else none

/-- The document that a text writes in JSON. -/
def readJson (name : String) : Document → Result Document
  | .text text =>
    match Json.read .strict text with
    | .ok document => return document
    | .error _ => refuse "" (.malformed name)
  | _ => refuse "" (.malformed name)

/-- The document that a text writes in YAML. -/
def readYaml (name : String) : Document → Result Document
  | .text text =>
    match Yaml.read text with
    | .ok document => return document
    | .error .malformed => refuse "" (.malformed name)
    | .error .tooDeep => throw .tooDeep
    | .error (.value fault) => throw (.value fault)
  | other => throw (.misfit (.noField other.fullKindName "read"))

/-- The document that a text writes in a format; capitals in the name of the format do not count.  What is
given for the text and for the format need not be texts. -/
def readText (text format : Document) : Result Document :=
  match format with
  | .text format =>
    let name := Text.lower format
    match Format.ofName? name with
    | none => refuse "" (.unsupportedFormat name)
    | some .json => readJson name text
    | some .yaml => readYaml name text
  | other => throw (.misfit (.noField other.fullKindName "lower"))

/-- The model that a text declares in a format. -/
def modelOfText (text format : Document) : Result Declared := do
  modelOf (← readText text format)

/-- Whether the name of a file says that it holds YAML; capitals do not count. -/
def isYamlName (name : String) : Bool :=
  let cs := (Text.lower name).toList
  ".yml".toList.isSuffixOf cs || ".yaml".toList.isSuffixOf cs

/-- Names the file in the errors of its document. -/
def LoadError.inFile (file : String) : LoadError → LoadError
  | .refused _ path problem => .refused file path problem
  | other => other

/-- The model that a file declares, given the files that there are.  What is given for its name need not be
a text. -/
def modelOfFile (files : FileTree) (name : Document) : Result Declared :=
  match name with
  | .text name =>
    match files.find name with
    | .error fault => throw (.noFile name fault)
    | .ok octets =>
      let text := String.ofList (Text.withUnixLineEnds octets.toList)
      let format := if isYamlName name then "yaml" else "json"
      (modelOfText (.text text) (.text format)).mapError (LoadError.inFile name)
  | other => throw (.misfit (.noField other.fullKindName "lower"))

end Loading

end ClassDiagram
