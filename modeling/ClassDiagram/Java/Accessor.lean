import ClassDiagram.Association
import ClassDiagram.Java.Code
import ClassDiagram.TypeName

/-!
# The accessors of members

The accessors that a class gets for a member of an association, as statements.  A setter, an adder and
a remover change the field of the object first and then tell the other object; each begins with a guard
that ends the exchange of calls once both sides agree.
-/

set_option autoImplicit false

namespace ClassDiagram.Java

/-- The objects that a statement can name. -/
inductive Operand where
  | newValue
  | oldValue
  | self
  | null
  deriving Repr, DecidableEq

/-- The word for an object. -/
def Operand.word : Operand → String
  | newValue => "newValue"
  | oldValue => "oldValue"
  | self => "this"
  | null => "null"

/-- The conditions of accessors, on the field of the object and the parameter. -/
inductive Condition where
  /-- The field is the new value. -/
  | fieldIsNew
  /-- The field holds an object. -/
  | fieldGiven
  /-- The new value is an object. -/
  | newGiven
  /-- The new value is no object or is in the list. -/
  | newMissingOrHeld
  /-- The old value is not in the list. -/
  | oldNotHeld
  deriving Repr, DecidableEq

/-- A statement of an accessor. -/
inductive Statement where
  /-- Ends the accessor. -/
  | leave
  /-- Returns the field. -/
  | returnField
  /-- Returns a view of the list that cannot be changed. -/
  | returnView
  /-- Returns the number of values in the list. -/
  | returnSize
  /-- Keeps the value of the field under a name, with its type. -/
  | keepOld (type : String)
  /-- Sets the field. -/
  | assign (value : Operand)
  /-- Adds the new value to the list. -/
  | add
  /-- Removes the old value from the list. -/
  | remove
  /-- Calls an accessor of another object. -/
  | call (receiver : Operand) (call : PartnerCall)
  /-- Runs statements under a condition. -/
  | when (condition : Condition) (body : List Statement)
  deriving Repr

/-- A method that is generated for a member: what it returns, its name, its parameter with its type, if
it has one, and what it does. -/
structure Accessor where
  returns : String
  name : String
  parameter : Option (String × Operand)
  body : List Statement
  deriving Repr

/-- The field that an accessor works on. -/
def fieldText (field : String) : String := "this." ++ field

/-- The text of a condition. -/
def Condition.text (field : String) : Condition → String
  | fieldIsNew => fieldText field ++ " == newValue"
  | fieldGiven => fieldText field ++ " != null"
  | newGiven => "newValue != null"
  | newMissingOrHeld => "newValue == null || " ++ fieldText field ++ ".contains(newValue)"
  | oldNotHeld => "!" ++ fieldText field ++ ".contains(oldValue)"

/-- The text of a call on another object. -/
def callText (receiver : Operand) (call : PartnerCall) : String :=
  receiver.word ++ "." ++ call.method ++ "(" ++
    (if call.passesSelf then Operand.self.word else Operand.null.word) ++ ");"

mutual

/-- The code of a statement. -/
def Statement.code (field : String) : Statement → Code
  | .leave => .line "return;"
  | .returnField => .line ("return " ++ fieldText field ++ ";")
  | .returnView => .line ("return Collections.unmodifiableList(" ++ fieldText field ++ ");")
  | .returnSize => .line ("return " ++ fieldText field ++ ".size();")
  | .keepOld type => .line (type ++ " oldValue = " ++ fieldText field ++ ";")
  | .assign value => .line (fieldText field ++ " = " ++ value.word ++ ";")
  | .add => .line (fieldText field ++ ".add(newValue);")
  | .remove => .line (fieldText field ++ ".remove(oldValue);")
  | .call receiver call => .line (callText receiver call)
  | .when condition body => .block ("if (" ++ condition.text field ++ ")") (statementCodes field body)

/-- The code of statements. -/
def statementCodes (field : String) : List Statement → List Code
  | [] => []
  | s :: rest => s.code field :: statementCodes field rest

end

/-- The header of an accessor. -/
def Accessor.header (a : Accessor) : String :=
  let parameter := match a.parameter with
    | none => ""
    | some (type, operand) => type ++ " " ++ operand.word
  "public " ++ a.returns ++ " " ++ a.name ++ "(" ++ parameter ++ ")"

/-- The code of an accessor, set off by an empty line. -/
def Accessor.code (field : String) (a : Accessor) : List Code :=
  [.blank, .block a.header (statementCodes field a.body)]

/-- The calls, none or one, on an object. -/
def notification (receiver : Operand) (call : Option PartnerCall) : List Statement :=
  (call.map (Statement.call receiver)).toList

/-- What a setter does.  Without a call to make, the field is set and nothing else. -/
def setterBody (type : String) (m : AssociationMember) : List Statement :=
  match m.onDetach, m.onAttach with
  | none, none => [.assign .newValue]
  | detach, attach =>
    [.when .fieldIsNew [.leave],
      .when .fieldGiven ([.keepOld type, .assign .null] ++ notification .oldValue detach),
      .assign .newValue,
      .when .newGiven (notification .newValue attach)]

/-- What an adder does. -/
def adderBody (m : AssociationMember) : List Statement :=
  [.when .newMissingOrHeld [.leave], .add] ++ notification .newValue m.onAttach

/-- What a remover does. -/
def removerBody (m : AssociationMember) : List Statement :=
  [.when .oldNotHeld [.leave], .remove] ++ notification .oldValue m.onDetach

/-- The type of the values of a member. -/
def elementType (table : TypeTable) (m : AssociationMember) : Except Misfit String :=
  lineText (table.nameOfTarget m.target)

/-- The type of a member. -/
def typeOfMember (table : TypeTable) (m : AssociationMember) : Except Misfit String :=
  if m.isList then listType (table.nameOfTarget m.target) else elementType table m

/-- The accessors of a member that holds one value of a type. -/
def singleAccessors (type : String) (m : AssociationMember) : List Accessor :=
  [⟨type, m.methodFor .get, none, [.returnField]⟩,
    ⟨voidType, m.methodFor .set, some (type, .newValue), setterBody type m⟩]

/-- The accessors of a member that holds a list of a type, with the type of its elements. -/
def collectionAccessors (type element : String) (m : AssociationMember) : List Accessor :=
  [⟨type, m.methodFor .get, none, [.returnView]⟩,
    ⟨"int", m.methodFor .sizeOf, none, [.returnSize]⟩,
    ⟨voidType, m.methodFor .addTo, some (element, .newValue), adderBody m⟩,
    ⟨voidType, m.methodFor .removeFrom, some (element, .oldValue), removerBody m⟩]

/-- The accessors of a member. -/
def memberAccessors (table : TypeTable) (m : AssociationMember) :
    Except Misfit (List Accessor) := do
  let type ← typeOfMember table m
  let element ← elementType table m
  return if m.isList then collectionAccessors type element m else singleAccessors type m

/-- The code of the accessors of a member. -/
def accessorCode (table : TypeTable) (m : AssociationMember) : List Code :=
  match memberAccessors table m with
  | .ok accessors => accessors.flatMap (Accessor.code m.name)
  | .error e => [.unwritable e]

end ClassDiagram.Java
