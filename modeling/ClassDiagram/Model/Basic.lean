import ClassDiagram.Multiplicity

/-!
# Class diagram models

Packages of classes, interfaces, data types, primitive types, enumerations and associations.  A model is
a tree.  The type `ι` is what is known of the place of an element and `ρ` is what stands for a reference
to a type: a name in a model as it is declared, a name and its target in a linked one.
-/

set_option autoImplicit false

namespace ClassDiagram

/-- Who may use a feature. -/
inductive Visibility where
  | publicAccess
  | protectedAccess
  | privateAccess
  | packageAccess
  deriving Repr, DecidableEq

/-- The word for a visibility in documents. -/
def Visibility.word : Visibility → String
  | publicAccess => "public"
  | protectedAccess => "protected"
  | privateAccess => "private"
  | packageAccess => "package"

/-- The visibility with a word. -/
def Visibility.ofWord? (word : String) : Option Visibility :=
  [publicAccess, protectedAccess, privateAccess, packageAccess].find? (·.word == word)

/-- How a whole holds its parts. -/
inductive Aggregation where
  | plain
  | shared
  | composite
  deriving Repr, DecidableEq

/-- The word for an aggregation in documents. -/
def Aggregation.word : Aggregation → String
  | plain => "none"
  | shared => "shared"
  | composite => "composite"

/-- The aggregation with a word. -/
def Aggregation.ofWord? (word : String) : Option Aggregation :=
  [plain, shared, composite].find? (·.word == word)

/-- The kinds of types. -/
inductive Kind where
  | classKind
  | interface
  | datatype
  | primitive
  | enumeration
  | association
  deriving Repr, DecidableEq

/-- The kinds in the order of their definition. -/
def Kind.all : List Kind := [.classKind, .interface, .datatype, .primitive, .enumeration, .association]

/-- The word for a kind in documents. -/
def Kind.word : Kind → String
  | classKind => "class"
  | interface => "interface"
  | datatype => "datatype"
  | primitive => "primitive"
  | enumeration => "enumeration"
  | association => "association"

/-- The kinds of types that values can have: all but associations. -/
def Kind.ofValues : List Kind := [.classKind, .interface, .datatype, .primitive, .enumeration]

/-- A parameter of an operation.  Documents give parameters no multiplicity: a parameter is for one value
unless its upper bound is changed later. -/
structure Parameter (ι ρ : Type) where
  place : ι
  name : String
  type : Option ρ
  upper : Bound
  deriving Repr

/-- Whether a parameter is for a list of values. -/
def Parameter.isList {ι ρ : Type} (r : Parameter ι ρ) : Bool := !r.upper.isOne

/-- A property of a type, or an end of an association. -/
structure Property (ι ρ : Type) where
  place : ι
  name : String
  type : Option ρ
  lower : Bound
  upper : Bound
  visibility : Option Visibility
  isStatic : Bool
  aggregation : Aggregation
  deriving Repr

/-- Whether a property holds a list of values. -/
def Property.isList {ι ρ : Type} (p : Property ι ρ) : Bool := !p.upper.isOne

/-- An operation.  Without a type it returns nothing.  The description and the content are kept as the
document gives them. -/
structure Operation (ι ρ : Type) where
  place : ι
  name : String
  type : Option ρ
  lower : Bound
  upper : Bound
  parameters : List (Parameter ι ρ)
  visibility : Option Visibility
  isStatic : Bool
  isAbstract : Bool
  description : Document
  content : Document
  deriving Repr

/-- Whether an operation returns a list of values. -/
def Operation.isList {ι ρ : Type} (o : Operation ι ρ) : Bool := !o.upper.isOne

/-- What a class declares. -/
structure ClassBody (ι ρ : Type) where
  isAbstract : Bool
  properties : List (Property ι ρ)
  operations : List (Operation ι ρ)
  superClasses : List ρ
  superInterfaces : List ρ
  deriving Repr

/-- Whether some operation of a class is abstract. -/
def ClassBody.declaresAbstract {ι ρ : Type} (c : ClassBody ι ρ) : Bool :=
  c.operations.any (·.isAbstract)

/-- What an interface declares. -/
structure InterfaceBody (ι ρ : Type) where
  properties : List (Property ι ρ)
  operations : List (Operation ι ρ)
  superInterfaces : List ρ
  deriving Repr

/-- What a type declares, by its kind. -/
inductive Body (ι ρ : Type) where
  | classBody (body : ClassBody ι ρ)
  | interface (body : InterfaceBody ι ρ)
  | datatype (properties : List (Property ι ρ))
  | primitive
  | enumeration (literals : List String)
  | association (ends : List (Property ι ρ))
  deriving Repr

/-- The kind of what a type declares. -/
def Body.kind {ι ρ : Type} : Body ι ρ → Kind
  | classBody _ => .classKind
  | interface _ => .interface
  | datatype _ => .datatype
  | primitive => .primitive
  | enumeration _ => .enumeration
  | association _ => .association

/-- A type of a model. -/
structure Classifier (ι ρ : Type) where
  place : ι
  name : String
  body : Body ι ρ
  deriving Repr

namespace Classifier

variable {ι ρ : Type}

/-- The kind of a type. -/
def kind (t : Classifier ι ρ) : Kind := t.body.kind

/-- The properties of a class, an interface or a data type. -/
def properties (t : Classifier ι ρ) : List (Property ι ρ) :=
  match t.body with
  | .classBody c => c.properties
  | .interface c => c.properties
  | .datatype properties => properties
  | _ => []

/-- The operations of a class or an interface. -/
def operations (t : Classifier ι ρ) : List (Operation ι ρ) :=
  match t.body with
  | .classBody c => c.operations
  | .interface c => c.operations
  | _ => []

/-- The ends of an association. -/
def ends (t : Classifier ι ρ) : List (Property ι ρ) :=
  match t.body with
  | .association ends => ends
  | _ => []

/-- The literals of an enumeration. -/
def literals (t : Classifier ι ρ) : List String :=
  match t.body with
  | .enumeration literals => literals
  | _ => []

end Classifier

/-- A package with the packages and types that it holds. -/
structure Package (ι ρ : Type) where
  place : ι
  name : String
  packages : List (Package ι ρ)
  types : List (Classifier ι ρ)
  deriving Repr

/-- A model: its top-level packages. -/
structure Model (ι ρ : Type) where
  packages : List (Package ι ρ)
  deriving Repr

/-- A model as it is declared, with references by name. -/
abbrev Declared := Model Unit String

end ClassDiagram
