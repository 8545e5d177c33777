import ClassDiagram.Draft.Field
import ClassDiagram.Draft.View
import ClassDiagram.Objects.Creation
import ClassDiagram.Report.Basic
import ClassDiagram.Script.Basic

/-!
# Scripts that work on objects

A step creates an object under a name or runs an accessor of one.  A row has the result, the state of all
objects and the accessors that ran.
-/

set_option autoImplicit false

namespace ClassDiagram.Script

open Objects

/-- The objects of a script, in the order of their numbers by the names that they were given. -/
structure Stage where
  names : List Document
  heap : Heap

namespace Stage

/-- No objects. -/
def empty : Stage := ⟨[], .empty⟩

/-- The number of the newest object with a name. -/
def newest? (s : Stage) (name : Document) : Option Nat :=
  (s.names.zipIdx.reverse.find? (·.1.sameKey name)).map (·.2)

/-- The number of the newest object with a name, which there must be. -/
def object (s : Stage) (name : Document) : Except Misfit Nat := do
  let name ← name.asKey
  match s.newest? name with
  | some number => return number
  | none => throw (.noEntry (← lineText name))

/-- The number of an object that may be absent. -/
def objectIfAny (s : Stage) (name : Document) : Except Misfit (Option Nat) :=
  match name with
  | .null => return none
  | name => (s.object name).map some

/-- The names, each once, where it came first. -/
def distinct (s : Stage) : List Document :=
  s.names.foldl (fun seen name => if seen.any (·.sameKey name) then seen else seen ++ [name]) []

/-- The objects that have a name, with their numbers. -/
def named (s : Stage) : List (Document × Nat × Object) :=
  s.distinct.filterMap fun name =>
    (s.newest? name).bind fun number => (s.heap.objects[number]?).map (name, number, ·)

/-- The name of the object with a number. -/
def nameOf (s : Stage) (number : Nat) : Document := s.names.getD number (.text "?")

/-- What a slot holds, by the names of the objects. -/
def holding (s : Stage) : Holding → Document
  | .one value => Report.optional s.nameOf value
  | .many values => Report.each s.nameOf values

/-- The state of an object. -/
def state (s : Stage) (name : Document) (o : Object) : Document :=
  .list [name, .text o.className,
    Report.each (fun slot => .list [.text slot.name, s.holding slot.holding]) o.slots]

/-- The accessors that an object ran since an earlier stage, if there are any. -/
def trace? (s before : Stage) (name : Document) (number : Nat) (_ : Object) : Option Document :=
  let calls (t : Stage) : List String := ((t.heap.objects[number]?).map (·.calls)).getD []
  let added := ((calls s).take ((calls s).length - (calls before).length)).reverse
  if added.isEmpty then none else some (.list [name, Report.each .text added])

/-- What a row shows after a step. -/
def row (s before : Stage) (result : Document) : Document :=
  Report.record [("result", result),
    ("state", .list (s.named.map fun (name, _, o) => s.state name o)),
    ("trace", .list (s.named.filterMap fun (name, number, o) => s.trace? before name number o))]

/-! ## Steps -/

/-- The class that a value means: a name, or a mapping with the place of the class. -/
def classOf (d : Draft) (m : Linked) (value : Document) : Except Fault LinkedType :=
  match value with
  | .text name =>
    match m.classNamed? name with
    | some t => return t
    | none => throw (.misfit (.noEntry s!"No class named '{name}'"))
  | other => do
    let holder ← orMisfit (do d.locate [] (← other.entry "at"))
    let found : Option LinkedType := match holder with
      | .model => none
      | .element origin => m.classes.find? fun t => t.key == d.key origin
    match found with
    | some t => return t
    | none => throw (.misfit (.notSearched (d.holderSort holder)))

/-- Creates an object. -/
def create (s : Stage) (d : Draft) (m : Linked) (step : Document) : Except Fault Stage := do
  let t ← classOf d m (← orMisfit (step.item 2))
  let name ← orMisfit (do (← step.item 1).asKey)
  return ⟨s.names ++ [name], s.heap.create m t⟩

/-- The role that a value names.  One that is no text is the role of no member. -/
def roleOf (s : Stage) (receiver : Nat) (value : Document) : Except Fault String :=
  match value with
  | .text role => return role
  | other => do
    let role ← orMisfit (do lineText (← other.asKey))
    match s.heap.object? receiver with
    | none => throw (.call .noObject)
    | some o => throw (.call (.noMember o.className role))

/-- Runs an accessor of an object; one that fails may have changed objects before. -/
def call (s : Stage) (receiver : Nat) (kind : AccessorKind) (role : String) (argument : Option Nat) :
    Result × Stage :=
  match kind with
  | .get => (((s.heap.get receiver role).map s.holding).mapError .call, s)
  | .sizeOf => (((s.heap.sizeOf receiver role).map Report.count).mapError .call, s)
  | _ =>
    match s.heap.perform ⟨receiver, kind, role, argument⟩ with
    | .done heap => (return .null, { s with heap := heap })
    | .failed heap e => (throw (.call e), { s with heap := heap })
    | .unfinished heap => (throw .endless, { s with heap := heap })

/-- The accessor that a word of a step asks for, if there is one. -/
def accessorOf : String → Option AccessorKind
  | "set" => some .set
  | "add" => some .addTo
  | "remove" => some .removeFrom
  | "get" => some .get
  | "size" => some .sizeOf
  | _ => none

/-- The accessor with a word for it. -/
def accessorNamed (word : Document) : Except Misfit AccessorKind :=
  let found := match word with
    | .text verb => AccessorKind.ofVerb? verb
    | _ => none
  match found with
  | some kind => return kind
  | none => throw (.notWord (word.literal?.getD "") "AccessorOp")

/-- The call that a step asks for. -/
def callOf (s : Stage) (step : Document) : Except Fault (Nat × AccessorKind × String × Option Nat) := do
  let action ← orMisfit (step.item 0)
  let receiver ← orMisfit (do s.object (← step.item 1))
  let ask (kind : AccessorKind) (position : Nat) (takes : Bool) : Except Fault
      (Nat × AccessorKind × String × Option Nat) := do
    let role ← orMisfit (step.item position)
    let argument ← if takes then orMisfit (do s.objectIfAny (← step.item (position + 1))) else pure none
    return (receiver, kind, ← s.roleOf receiver role, argument)
  match action with
  | .text "invoke" => ask (← orMisfit (do accessorNamed (← step.item 2))) 3 true
  | .text word =>
    match accessorOf word with
    | some kind => ask kind 2 (kind != .get && kind != .sizeOf)
    | none => throw (.misfit (.noEntry word))
  | other => throw (.misfit (.noEntry (other.display?.getD "")))

/-- Takes a step. -/
def step (s : Stage) (d : Draft) (m : Linked) (step : Document) : Result × Stage :=
  if step.item 0 matches .ok (.text "create") then
    match s.create d m step with
    | .ok after => (return .null, after)
    | .error e => (throw e, s)
  else
    match s.callOf step with
    | .ok (receiver, kind, role, argument) => s.call receiver kind role argument
    | .error e => (throw e, s)

end Stage

/-- The rows of a script that works on objects of a model. -/
def workOnObjects (tell : Fault → Document) (m : Declared) (steps : List Document) : List Document :=
  let d := Draft.ofDeclared m
  let linked := m.link
  run (fun s step =>
    let (result, after) := s.step d linked step
    (after.row s (result.told tell), after)) Stage.empty steps

end ClassDiagram.Script
