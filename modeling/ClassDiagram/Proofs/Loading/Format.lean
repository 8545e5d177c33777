import ClassDiagram.Document.Mapping
import ClassDiagram.Model.Loading
import ClassDiagram.Proofs.Loading.Json

/-!
# The format of model documents

The format is stated twice.  `IsModel` says which documents are in it, element by element: what each mapping must have,
and what may be absent or null.  `DeclaresModel` says which model such a document declares.  A document is in the format
exactly if it declares some model (`isModel_iff`); packages may nest to any depth, but each document ends somewhere
(`IsPackage.exists_depth`).
-/

set_option autoImplicit false

namespace ClassDiagram

namespace Document

/-- Whether a value is a mapping that does not contain itself. -/
def isMapping : Document → Bool
  | map _ => true
  | _ => false

/-- The entries of a mapping. -/
def entries : Document → List (Document × Document)
  | map entries => entries
  | _ => []

/-- What a mapping has at a key, and null where it has nothing. -/
def held (d : Document) (key : String) : Document := (d.entry? key).getD null

/-- The items of the list that a mapping has at a key. -/
def items (d : Document) (key : String) : List Document :=
  match d.held key with
  | list items => items
  | _ => []

/-- The fields of a mapping are what it has at its keys. -/
theorem get?_entries (d : Document) (key : String) : (Fields.ofEntries d.entries).get? key = d.entry? key := by
  cases d <;> rfl

/-- What an entry of a JSON document holds is a JSON document. -/
theorem isJson_entry? {d : Document} (json : d.isJson) {key : String} {value : Document}
    (found : d.entry? key = some value) : value.isJson := by
  cases d with
  | map entries => exact isJson_of_fieldIn? json found
  | _ => cases found

/-- What a JSON document holds at a key is a JSON document. -/
theorem isJson_held {d : Document} (json : d.isJson) (key : String) : (d.held key).isJson := by
  unfold held
  cases found : d.entry? key with
  | none => rfl
  | some value => exact isJson_entry? json found

/-- The items at a key of a JSON document are JSON documents. -/
theorem isJson_items {d : Document} (json : d.isJson) {key : String} {item : Document} (there : item ∈ d.items key) :
    item.isJson := by
  have listed := isJson_held json key
  unfold items at there
  split at there
  · next items same =>
    rw [same] at listed
    exact areJson_iff.1 listed item there
  · cases there

end Document

namespace Form

/-! ## Fields -/

/-- At a key there is nothing, null or a list. -/
def MayList (d : Document) (key : String) : Prop := d.held key = .null ∨ ∃ items, d.held key = .list items

/-- At a key there is nothing, null or a list of items with a property. -/
def HasList (P : Document → Prop) (d : Document) (key : String) : Prop := MayList d key ∧ ∀ item ∈ d.items key, P item

/-- At a key there is nothing, null or a text with a property. -/
def HasText (P : String → Prop) (d : Document) (key : String) : Prop :=
  d.held key = .null ∨ ∃ word, d.held key = .text word ∧ P word

/-- A name is a text that is not empty. -/
def HasName (d : Document) : Prop := ∃ name, d.held "name" = .text name ∧ name ≠ ""

/-- What a value gives: nothing if it is null, and else what its text stands for. -/
def Gives {α : Type} (ofWord? : String → Option α) (value : Document) : Option α → Prop
  | none => value = .null
  | some a => ∃ word, value = .text word ∧ ofWord? word = some a

/-- The items of the list at a key declare these elements, one after another. -/
def DeclaresList {α : Type} (R : Document → α → Prop) (d : Document) (key : String) (elements : List α) : Prop :=
  MayList d key ∧ List.Forall₂ R (d.items key) elements

/-- The visibility that a text names; capitals do not count. -/
def visibility? (word : String) : Option Visibility := Visibility.ofWord? (Text.lower word)

/-- The aggregation that a text names; capitals do not count. -/
def aggregation? (word : String) : Option Aggregation := Aggregation.ofWord? (Text.lower word)

/-- The kind that a text names; capitals do not count. -/
def kind? (word : String) : Option Kind := Loading.kindWords.lookup (Text.lower word)

/-! ## Bounds -/

/-- A multiplicity is an integer, which is both bounds, or a text that writes one. -/
inductive DeclaresMultiplicity : Document → Int → Int → Prop where
  | number (n) : DeclaresMultiplicity (.int n) n n
  | text {word lower upper} (written : WritesMultiplicity word.toList lower upper) :
    DeclaresMultiplicity (.text word) lower upper

/-- A bound is an integer or a truth value; it is one where there is none. -/
inductive DeclaresBound : Option Document → Bound → Prop where
  | absent : DeclaresBound none (.number 1)
  | number (n) : DeclaresBound (some (.int n)) (.number n)
  | flag (b) : DeclaresBound (some (.bool b)) (.flag b)

/-- An upper bound may also be a text that writes it. -/
inductive DeclaresUpper : Option Document → Bound → Prop where
  | plain {value bound} (declared : DeclaresBound value bound) : DeclaresUpper value bound
  | text {word n} (written : WritesBound (Text.trim word).toList n) : DeclaresUpper (some (.text word)) (.number n)

/-- The bounds of a feature are those of its multiplicity if it has one. -/
def DeclaresBounds (d : Document) (lower upper : Bound) : Prop :=
  match d.entry? "multiplicity" with
  | some value => ∃ n m, DeclaresMultiplicity value n m ∧ lower = .number n ∧ upper = .number m
  | none => DeclaresBound (d.entry? "lower") lower ∧ DeclaresUpper (d.entry? "upper") upper

/-! ## The documents of the format -/

/-- A parameter is a mapping with a name and perhaps the name of a type. -/
structure IsParameter (d : Document) : Prop where
  mapping : d.isMapping
  name : HasName d
  type : HasText (fun _ => True) d "type"

/-- A feature has bounds and perhaps a visibility too. -/
structure IsFeature (d : Document) : Prop extends IsParameter d where
  bounds : ∃ lower upper, DeclaresBounds d lower upper
  visibility : HasText (fun word => (visibility? word).isSome) d "visibility"

/-- The format of a property: that of a feature, with an aggregation that there is. -/
structure IsProperty (d : Document) : Prop extends IsFeature d where
  aggregation : HasText (fun word => (aggregation? word).isSome) d "aggregation"

/-- The format of an operation: that of a feature, with parameters. -/
structure IsOperation (d : Document) : Prop extends IsFeature d where
  parameters : HasList IsParameter d "params"

/-- What a type of a kind has besides properties and operations. -/
def HasOwn (d : Document) : Kind → Prop
  | .classKind => HasList (·.isText) d "superClasses" ∧ HasList (·.isText) d "superInterfaces"
  | .interface => HasList (·.isText) d "superInterfaces"
  | .datatype => True
  | .primitive => True
  | .enumeration => MayList d "literals"
  | .association => HasList IsProperty d "ends"

/-- A type is a mapping with a name and a known kind.  Its properties and operations are in the format whatever its
kind. -/
structure IsType (d : Document) : Prop where
  mapping : d.isMapping
  name : HasName d
  kind : ∃ word kind, d.held "kind" = .text word ∧ kind? word = some kind ∧ HasOwn d kind
  properties : HasList IsProperty d "properties"
  operations : HasList IsOperation d "operations"

/-- A package is a mapping with a name, and lists of packages and of types if any. -/
inductive IsPackage : Document → Prop where
  | intro {d : Document} (mapping : d.isMapping) (name : HasName d) (listed : MayList d "packages")
    (packages : ∀ p ∈ d.items "packages", IsPackage p) (types : HasList IsType d "types") : IsPackage d

/-- A model is a mapping with a list of packages if any. -/
structure IsModel (d : Document) : Prop where
  mapping : d.isMapping
  packages : HasList IsPackage d "packages"

/-! ## What documents declare -/

/-- What a document declares as a parameter. -/
structure DeclaresParameter (d : Document) (r : Parameter Unit String) : Prop where
  mapping : d.isMapping
  name : d.held "name" = .text r.name ∧ r.name ≠ ""
  type : Gives some (d.held "type") r.type
  upper : r.upper = .number 1

/-- What a document declares as a property. -/
structure DeclaresProperty (d : Document) (p : Property Unit String) : Prop where
  mapping : d.isMapping
  name : d.held "name" = .text p.name ∧ p.name ≠ ""
  type : Gives some (d.held "type") p.type
  bounds : DeclaresBounds d p.lower p.upper
  visibility : Gives visibility? (d.held "visibility") p.visibility
  isStatic : p.isStatic = (d.held "static").isGiven
  aggregation : ∃ given, Gives aggregation? (d.held "aggregation") given ∧ p.aggregation = given.getD .plain

/-- What a document declares as an operation. -/
structure DeclaresOperation (d : Document) (o : Operation Unit String) : Prop where
  mapping : d.isMapping
  name : d.held "name" = .text o.name ∧ o.name ≠ ""
  type : Gives some (d.held "type") o.type
  bounds : DeclaresBounds d o.lower o.upper
  parameters : DeclaresList DeclaresParameter d "params" o.parameters
  visibility : Gives visibility? (d.held "visibility") o.visibility
  isStatic : o.isStatic = (d.held "static").isGiven
  isAbstract : o.isAbstract = (d.held "abstract").isGiven
  description : o.description = d.held "description"
  content : o.content = d.held "content"

/-- The super types of one sort that a type names. -/
def DeclaresSupers (d : Document) (key : String) (names : List String) : Prop :=
  DeclaresList (fun item name => item = .text name) d key names

/-- What a type declares with properties and operations that have been read; they are kept where its kind has them. -/
def DeclaresBody (d : Document) (properties : List (Property Unit String)) (operations : List (Operation Unit String)) :
    Body Unit String → Prop
  | .classBody c => c.isAbstract = (d.held "abstract").isGiven ∧ c.properties = properties ∧ c.operations = operations ∧
      DeclaresSupers d "superClasses" c.superClasses ∧ DeclaresSupers d "superInterfaces" c.superInterfaces
  | .interface c => c.properties = properties ∧ c.operations = operations ∧
      DeclaresSupers d "superInterfaces" c.superInterfaces
  | .datatype kept => kept = properties
  | .primitive => True
  | .enumeration literals => DeclaresList (fun item text => item.display? = some text) d "literals" literals
  | .association ends => DeclaresList DeclaresProperty d "ends" ends

/-- What a document declares as a type of its kind. -/
structure DeclaresType (d : Document) (t : Classifier Unit String) : Prop where
  mapping : d.isMapping
  name : d.held "name" = .text t.name ∧ t.name ≠ ""
  kind : ∃ word, d.held "kind" = .text word ∧ kind? word = some t.kind
  body : ∃ properties operations, DeclaresList DeclaresProperty d "properties" properties ∧
    DeclaresList DeclaresOperation d "operations" operations ∧ DeclaresBody d properties operations t.body

/-- What a document declares as a package, with the packages in it. -/
inductive DeclaresPackage : Document → Package Unit String → Prop where
  | intro {d : Document} {p : Package Unit String} (mapping : d.isMapping)
    (name : d.held "name" = .text p.name ∧ p.name ≠ "") (listed : MayList d "packages")
    (packages : List.Forall₂ DeclaresPackage (d.items "packages") p.packages)
    (types : DeclaresList DeclaresType d "types" p.types) : DeclaresPackage d p

/-- What a document declares as a model. -/
structure DeclaresModel (d : Document) (m : Declared) : Prop where
  mapping : d.isMapping
  packages : DeclaresList DeclaresPackage d "packages" m.packages

/-! ## The format is what declares something -/

/-- A value that is null gives nothing. -/
theorem gives_null {α : Type} {ofWord? : String → Option α} {given : Option α} :
    Gives ofWord? .null given ↔ given = none := by
  cases given with
  | none => exact ⟨fun _ => rfl, fun _ => rfl⟩
  | some a => exact ⟨fun ⟨_, same, _⟩ => (by cases same), nofun⟩

/-- A value that is not null gives what its text stands for. -/
theorem gives_of_ne_null {α : Type} {ofWord? : String → Option α} {value : Document} (some : value ≠ .null)
    {given : Option α} :
    Gives ofWord? value given ↔ ∃ word a, value = .text word ∧ ofWord? word = .some a ∧ given = .some a := by
  cases given with
  | none => exact ⟨fun null => absurd null some, nofun⟩
  | some a =>
    constructor
    · rintro ⟨word, same, found⟩
      exact ⟨word, a, same, found, rfl⟩
    · rintro ⟨word, b, same, found, ⟨⟩⟩
      exact ⟨word, same, found⟩

/-- A value gives something exactly if it is missing or a text that stands for something. -/
theorem exists_gives {α : Type} {ofWord? : String → Option α} {d : Document} {key : String} :
    (∃ given, Gives ofWord? (d.held key) given) ↔ HasText (fun word => (ofWord? word).isSome) d key := by
  constructor
  · rintro ⟨given, gives⟩
    cases given with
    | none => exact .inl gives
    | some a =>
      obtain ⟨word, same, named⟩ := gives
      exact .inr ⟨word, same, Option.isSome_iff_exists.2 ⟨a, named⟩⟩
  · rintro (null | ⟨word, same, named⟩)
    · exact ⟨none, null⟩
    · obtain ⟨a, found⟩ := Option.isSome_iff_exists.1 named
      exact ⟨some a, word, same, found⟩

/-- A list declares elements exactly if each of its items declares one. -/
theorem exists_declaresList {α : Type} {P : Document → Prop} {R : Document → α → Prop} {d : Document} {key : String}
    (each : ∀ item ∈ d.items key, P item ↔ ∃ a, R item a) :
    HasList P d key ↔ ∃ elements, DeclaresList R d key elements := by
  have all : (∀ item ∈ d.items key, P item) ↔ ∀ item ∈ d.items key, ∃ a, R item a :=
    forall₂_congr each
  unfold HasList DeclaresList
  rw [all, ← exists_forall₂, exists_and_left]

variable {d : Document}

/-- A document is a parameter exactly if it declares one. -/
theorem isParameter_iff : IsParameter d ↔ ∃ r, DeclaresParameter d r := by
  have text : HasText (fun _ => True) d "type" ↔ ∃ type, Gives some (d.held "type") type := by
    rw [exists_gives]
    simp
  constructor
  · intro form
    obtain ⟨name, same, named⟩ := form.name
    obtain ⟨type, gives⟩ := text.1 form.type
    exact ⟨⟨(), name, type, .number 1⟩, form.mapping, ⟨same, named⟩, gives, rfl⟩
  · rintro ⟨r, declared⟩
    exact ⟨declared.mapping, ⟨r.name, declared.name⟩, text.2 ⟨r.type, declared.type⟩⟩

/-- A document is a property exactly if it declares one. -/
theorem isProperty_iff : IsProperty d ↔ ∃ p, DeclaresProperty d p := by
  constructor
  · intro form
    obtain ⟨r, declared⟩ := isParameter_iff.1 form.toIsParameter
    obtain ⟨lower, upper, bounds⟩ := form.bounds
    obtain ⟨visibility, visible⟩ := exists_gives.2 form.visibility
    obtain ⟨given, aggregated⟩ := exists_gives.2 form.aggregation
    exact ⟨⟨(), r.name, r.type, lower, upper, visibility, (d.held "static").isGiven, given.getD .plain⟩,
      declared.mapping, declared.name, declared.type, bounds, visible, rfl, given, aggregated, rfl⟩
  · rintro ⟨p, declared⟩
    have plain : IsParameter d :=
      isParameter_iff.2 ⟨⟨(), p.name, p.type, .number 1⟩, declared.mapping, declared.name, declared.type, rfl⟩
    obtain ⟨given, aggregated, -⟩ := declared.aggregation
    exact { plain with
      bounds := ⟨p.lower, p.upper, declared.bounds⟩
      visibility := exists_gives.1 ⟨p.visibility, declared.visibility⟩
      aggregation := exists_gives.1 ⟨given, aggregated⟩ }

/-- A document is an operation exactly if it declares one. -/
theorem isOperation_iff : IsOperation d ↔ ∃ o, DeclaresOperation d o := by
  have parameters : HasList IsParameter d "params" ↔ ∃ rs, DeclaresList DeclaresParameter d "params" rs :=
    exists_declaresList fun _ _ => isParameter_iff
  constructor
  · intro form
    obtain ⟨r, declared⟩ := isParameter_iff.1 form.toIsParameter
    obtain ⟨lower, upper, bounds⟩ := form.bounds
    obtain ⟨visibility, visible⟩ := exists_gives.2 form.visibility
    obtain ⟨listed, each⟩ := parameters.1 form.parameters
    exact ⟨⟨(), r.name, r.type, lower, upper, listed, visibility, (d.held "static").isGiven,
      (d.held "abstract").isGiven, d.held "description", d.held "content"⟩,
      declared.mapping, declared.name, declared.type, bounds, each, visible, rfl, rfl, rfl, rfl⟩
  · rintro ⟨o, declared⟩
    have plain : IsParameter d :=
      isParameter_iff.2 ⟨⟨(), o.name, o.type, .number 1⟩, declared.mapping, declared.name, declared.type, rfl⟩
    exact { plain with
      bounds := ⟨o.lower, o.upper, declared.bounds⟩
      visibility := exists_gives.1 ⟨o.visibility, declared.visibility⟩
      parameters := parameters.2 ⟨o.parameters, declared.parameters⟩ }

/-- A list of texts declares super types, and nothing else does. -/
theorem exists_declaresSupers {key : String} :
    HasList (·.isText) d key ↔ ∃ names, DeclaresSupers d key names := by
  refine exists_declaresList fun item _ => ?_
  constructor
  · exact Document.exists_of_isText
  · rintro ⟨name, rfl⟩
    rfl

/-- A document has what is own to a kind exactly if it declares a body of this kind. -/
theorem hasOwn_iff (json : d.isJson) (kind : Kind) (properties : List (Property Unit String))
    (operations : List (Operation Unit String)) :
    HasOwn d kind ↔ ∃ body : Body Unit String, body.kind = kind ∧ DeclaresBody d properties operations body := by
  have supers {key : String} : HasList (·.isText) d key ↔ ∃ names, DeclaresSupers d key names := exists_declaresSupers
  have ends : HasList IsProperty d "ends" ↔ ∃ es, DeclaresList DeclaresProperty d "ends" es :=
    exists_declaresList fun _ _ => isProperty_iff
  constructor
  · intro own
    cases kind with
    | classKind =>
      obtain ⟨superClasses, first⟩ := supers.1 own.1
      obtain ⟨superInterfaces, second⟩ := supers.1 own.2
      exact ⟨.classBody ⟨(d.held "abstract").isGiven, properties, operations, superClasses, superInterfaces⟩, rfl,
        rfl, rfl, rfl, first, second⟩
    | interface =>
      obtain ⟨superInterfaces, named⟩ := supers.1 own
      exact ⟨.interface ⟨properties, operations, superInterfaces⟩, rfl, rfl, rfl, named⟩
    | datatype => exact ⟨.datatype properties, rfl, rfl⟩
    | primitive => exact ⟨.primitive, rfl, trivial⟩
    | enumeration =>
      have texts : ∀ item ∈ d.items "literals", ∃ text, item.display? = some text := fun item there =>
        Document.exists_display (Document.isJson_items json there)
      obtain ⟨literals, each⟩ := exists_forall₂.2 texts
      exact ⟨.enumeration literals, rfl, own, each⟩
    | association =>
      obtain ⟨listed, each⟩ := ends.1 own
      exact ⟨.association listed, rfl, each⟩
  · rintro ⟨body, rfl, declared⟩
    cases body with
    | classBody c => exact ⟨supers.2 ⟨_, declared.2.2.2.1⟩, supers.2 ⟨_, declared.2.2.2.2⟩⟩
    | interface c => exact supers.2 ⟨_, declared.2.2⟩
    | datatype kept => trivial
    | primitive => trivial
    | enumeration literals => exact declared.1
    | association listed => exact ends.2 ⟨listed, declared⟩

/-- A document is a type exactly if it declares one. -/
theorem isType_iff (json : d.isJson) : IsType d ↔ ∃ t, DeclaresType d t := by
  have properties : HasList IsProperty d "properties" ↔ ∃ ps, DeclaresList DeclaresProperty d "properties" ps :=
    exists_declaresList fun _ _ => isProperty_iff
  have operations : HasList IsOperation d "operations" ↔ ∃ os, DeclaresList DeclaresOperation d "operations" os :=
    exists_declaresList fun _ _ => isOperation_iff
  constructor
  · intro form
    obtain ⟨name, named⟩ := form.name
    obtain ⟨word, kind, same, found, own⟩ := form.kind
    obtain ⟨ps, eachProperty⟩ := properties.1 form.properties
    obtain ⟨os, eachOperation⟩ := operations.1 form.operations
    obtain ⟨body, rfl, declared⟩ := (hasOwn_iff json kind ps os).1 own
    exact ⟨⟨(), name, body⟩, form.mapping, named, ⟨word, same, found⟩, ps, os, eachProperty, eachOperation, declared⟩
  · rintro ⟨t, declared⟩
    obtain ⟨word, same, found⟩ := declared.kind
    obtain ⟨ps, os, eachProperty, eachOperation, body⟩ := declared.body
    exact ⟨declared.mapping, ⟨t.name, declared.name⟩,
      ⟨word, t.kind, same, found, (hasOwn_iff json t.kind ps os).2 ⟨t.body, rfl, body⟩⟩,
      properties.2 ⟨ps, eachProperty⟩, operations.2 ⟨os, eachOperation⟩⟩

/-- A document that is a package declares one. -/
theorem IsPackage.exists_declared (form : IsPackage d) (json : d.isJson) : ∃ p, DeclaresPackage d p := by
  induction form with
  | @intro d mapping name listed packages types ih =>
    obtain ⟨word, named⟩ := name
    obtain ⟨ps, each⟩ := exists_forall₂.2 fun p there => ih p there (Document.isJson_items json there)
    obtain ⟨ts, eachType⟩ := (exists_declaresList fun _ there => isType_iff (Document.isJson_items json there)).1 types
    exact ⟨⟨(), word, ps, ts⟩, .intro mapping named listed each eachType⟩

/-- Documents that declare packages are packages. -/
theorem isPackage_of_declared : (ps : List (Package Unit String)) → {ds : List Document} → (∀ d ∈ ds, d.isJson) →
    List.Forall₂ DeclaresPackage ds ps → ∀ d ∈ ds, IsPackage d
  | [], _, _, .nil => nofun
  | ⟨(), name, packages, types⟩ :: rest, _, json, .cons first later => by
    rw [List.forall_mem_cons] at json ⊢
    refine ⟨?_, isPackage_of_declared rest json.2 later⟩
    cases first with
    | intro mapping named listed each eachType =>
      have inside := isPackage_of_declared packages (fun _ there => Document.isJson_items json.1 there) each
      have typed := (exists_declaresList fun _ there => isType_iff (Document.isJson_items json.1 there)).2 ⟨types, eachType⟩
      exact .intro mapping ⟨name, named⟩ listed inside typed

/-- A JSON document is in the format exactly if it declares some model. -/
theorem isModel_iff (json : d.isJson) : IsModel d ↔ ∃ m, DeclaresModel d m := by
  constructor
  · intro form
    obtain ⟨listed, packages⟩ := form.packages
    obtain ⟨ps, each⟩ := exists_forall₂.2 fun p there =>
      (packages p there).exists_declared (Document.isJson_items json there)
    exact ⟨⟨ps⟩, form.mapping, listed, each⟩
  · rintro ⟨m, declared⟩
    obtain ⟨listed, each⟩ := declared.packages
    exact ⟨declared.mapping, listed,
      isPackage_of_declared m.packages (fun _ there => Document.isJson_items json there) each⟩

/-! ## Packages in packages -/

/-- Whether packages nest at most so many times. -/
def NestWithin : Nat → List Document → Prop
  | 0, packages => packages = []
  | n + 1, packages => ∀ p ∈ packages, NestWithin n (p.items "packages")

/-- Packages that nest within a depth nest within a greater one. -/
theorem NestWithin.mono {n m : Nat} (le : n ≤ m) {packages : List Document} (within : NestWithin n packages) :
    NestWithin m packages := by
  induction n generalizing m packages with
  | zero =>
    obtain rfl : packages = [] := within
    cases m with
    | zero => rfl
    | succ m => exact nofun
  | succ n ih =>
    obtain ⟨m, rfl⟩ := Nat.exists_eq_add_one_of_ne_zero (Nat.ne_of_gt (Nat.lt_of_lt_of_le (Nat.succ_pos n) le))
    exact fun p there => ih (Nat.le_of_succ_le_succ le) (within p there)

/-- Packages that each end somewhere have a depth in common. -/
theorem exists_nestWithin {packages : List Document} (each : ∀ p ∈ packages, ∃ n, NestWithin n (p.items "packages")) :
    ∃ n, NestWithin n packages := by
  induction packages with
  | nil => exact ⟨0, rfl⟩
  | cons p rest ih =>
    rw [List.forall_mem_cons] at each
    obtain ⟨n, first⟩ := each.1
    obtain ⟨m, others⟩ := ih each.2
    refine ⟨max n m + 1, List.forall_mem_cons.2 ⟨first.mono (Nat.le_max_left n m), ?_⟩⟩
    exact others.mono (Nat.le_succ_of_le (Nat.le_max_right n m))

/-- The packages of a package nest within some depth. -/
theorem IsPackage.exists_depth (form : IsPackage d) : ∃ n, NestWithin n (d.items "packages") := by
  induction form with
  | intro mapping name listed packages types ih => exact exists_nestWithin ih

/-- The packages of a model nest within some depth. -/
theorem IsModel.exists_depth (form : IsModel d) : ∃ n, NestWithin n (d.items "packages") :=
  exists_nestWithin fun p there => (form.packages.2 p there).exists_depth

end Form

end ClassDiagram
