import ClassDiagram.Linking

/-!
# What instructions do

The meaning of the instructions of accessors, as Java has it: `==` compares references, a list finds and removes an
object by its identity, and a call runs the method of that name of the class of its receiver.  Nothing can be called
on `null`, and a variable is there from its declaration to the end of the block that it is declared in.

Every method that is entered is noted at its object.
-/

set_option autoImplicit false

namespace ClassDiagram.Java

/-! ## The store -/

/-- What a field holds: a reference or a list of references; a reference may be null. -/
inductive FieldValue where
  | reference (value : Option Nat)
  | list (values : List (Option Nat))
  deriving Repr, DecidableEq

/-- An object: its class, its fields and the accessors that it entered, the last one first. -/
structure Instance where
  owner : LinkedType
  fields : List (String × FieldValue)
  entries : List String

/-- The objects that were created; an object is known by its position. -/
abbrev Store := List Instance

namespace Store

/-- What a field of an object holds. -/
def field? (s : Store) (x : Nat) (name : String) : Option FieldValue :=
  s[x]?.bind fun o => o.fields.lookup name

/-- Writes to a field of an object. -/
def assign (s : Store) (x : Nat) (name : String) (value : FieldValue) : Store :=
  s.modify x fun o =>
    { o with fields := o.fields.map fun f => if f.1 == name then (f.1, value) else f }

/-- Notes that a method of an object was entered. -/
def enter (s : Store) (x : Nat) (method : String) : Store :=
  s.modify x fun o => { o with entries := method :: o.entries }

end Store

/-! ## Instructions -/

/-- What stands for an object: the object itself, `null`, a variable or a field. -/
inductive Term where
  | self
  | null
  | variable (name : String)
  | field (name : String)
  deriving Repr, DecidableEq

/-- What is tested before a block: whether terms are the same or not, or a list contains one. -/
inductive Test where
  | same (left right : Term)
  | different (left right : Term)
  | contains (field : String) (value : Term)
  | negated (test : Test)
  | either (first second : Test)
  deriving Repr, DecidableEq

/-- What a line or a block does. -/
inductive Instruction where
  /-- Ends the method.  What it returns is not used. -/
  | leave
  /-- Declares a variable. -/
  | declare (name : String) (value : Term)
  /-- Sets a field. -/
  | assign (field : String) (value : Term)
  /-- Adds an object to a list. -/
  | add (field : String) (value : Term)
  /-- Removes an object from a list. -/
  | remove (field : String) (value : Term)
  /-- Calls a method of an object. -/
  | call (receiver : Term) (method : String) (argument : Term)
  /-- Runs instructions if a test holds. -/
  | when (test : Test) (body : List Instruction)
  deriving Repr

/-! ## Execution -/

/-- The object that a method runs on, and its local variables. -/
structure Frame where
  self : Nat
  locals : List (String × Option Nat)

/-- How a call of a method ends: it returns, it goes wrong, or there was no fuel left. -/
inductive Answer where
  | returned (store : Store)
  | failed (store : Store)
  | unfinished (store : Store)

/-- How far an instruction comes: to its end, or the method is over. -/
inductive Progress where
  | on (store : Store) (frame : Frame)
  | over (answer : Answer)

/-- How a method of an object runs, given its name and its argument. -/
abbrev Invocation := Store → Nat → String → Option Nat → Answer

/-- The object that a term stands for; there is none for a variable that is not declared, and for a field that is not
there or holds a list. -/
def Term.value? (s : Store) (f : Frame) : Term → Option (Option Nat)
  | .self => some (some f.self)
  | .null => some none
  | .variable name => f.locals.lookup name
  | .field name =>
    match s.field? f.self name with
    | some (.reference value) => some value
    | _ => none

/-- Whether a test holds, if all that it needs is there.  The second one of two tests is made if the first one does not
hold. -/
def Test.holds? (s : Store) (f : Frame) : Test → Option Bool
  | .same left right =>
    match left.value? s f, right.value? s f with
    | some x, some y => some (x == y)
    | _, _ => none
  | .different left right =>
    match left.value? s f, right.value? s f with
    | some x, some y => some (x != y)
    | _, _ => none
  | .contains field value =>
    match s.field? f.self field, value.value? s f with
    | some (.list values), some x => some (values.contains x)
    | _, _ => none
  | .negated test => (test.holds? s f).map (!·)
  | .either first second =>
    match first.holds? s f with
    | some true => some true
    | some false => second.holds? s f
    | none => none

mutual

/-- Executes an instruction.  A variable that is declared in a block is gone after it. -/
def Instruction.execute (invoke : Invocation) (s : Store) (f : Frame) : Instruction → Progress
  | .leave => .over (.returned s)
  | .declare name value =>
    match f.locals.lookup name, value.value? s f with
    | none, some x => .on s { f with locals := (name, x) :: f.locals }
    | _, _ => .over (.failed s)
  | .assign field value =>
    match s.field? f.self field, value.value? s f with
    | some (.reference _), some x => .on (s.assign f.self field (.reference x)) f
    | _, _ => .over (.failed s)
  | .add field value =>
    match s.field? f.self field, value.value? s f with
    | some (.list values), some x => .on (s.assign f.self field (.list (values ++ [x]))) f
    | _, _ => .over (.failed s)
  | .remove field value =>
    match s.field? f.self field, value.value? s f with
    | some (.list values), some x => .on (s.assign f.self field (.list (values.erase x))) f
    | _, _ => .over (.failed s)
  | .call receiver method argument =>
    match receiver.value? s f, argument.value? s f with
    | some (some y), some x =>
      match invoke s y method x with
      | .returned s => .on s f
      | other => .over other
    | _, _ => .over (.failed s)
  | .when test body =>
    match test.holds? s f with
    | some true =>
      match executeAll invoke s f body with
      | .on s _ => .on s f
      | other => other
    | some false => .on s f
    | none => .over (.failed s)

/-- Executes instructions one after the other. -/
def executeAll (invoke : Invocation) (s : Store) (f : Frame) : List Instruction → Progress
  | [] => .on s f
  | first :: rest =>
    match first.execute invoke s f with
    | .on s f => executeAll invoke s f rest
    | other => other

end

/-- A method ends with its instructions, if it was not over before. -/
def Progress.answer : Progress → Answer
  | .on s _ => .returned s
  | .over answer => answer

/-! ## Methods -/

/-- A method: its name, its parameter, if it has one, and what it does. -/
structure Method where
  name : String
  parameter : Option String
  body : List Instruction
  deriving Repr

/-- Calls a method of an object by its name, with a unit of fuel for each level of calls, given the methods of the
class of an object. -/
def invokeWith (methods : LinkedType → List Method) : Nat → Invocation
  | 0, s, _, _, _ => .unfinished s
  | fuel + 1, s, x, name, argument =>
    match s[x]? with
    | none => .failed s
    | some object =>
      match (methods object.owner).find? (·.name == name) with
      | some ⟨_, some parameter, body⟩ =>
        (executeAll (invokeWith methods fuel) (s.enter x name) ⟨x, [(parameter, argument)]⟩ body).answer
      | _ => .failed s

end ClassDiagram.Java
