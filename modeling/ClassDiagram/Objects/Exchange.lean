import ClassDiagram.Objects.Heap

/-!
# The accessors of objects

An accessor that changes its object calls an accessor of the other object, which may call back; each
ends where nothing is left to change.  Every call in such an exchange uses one unit of fuel, and
`Heap.perform` gives an exchange more than it can use: the calls that link go to and fro between two
objects and displace each slot of them at most once, and the calls that unlink remove a link each.
-/

set_option autoImplicit false

namespace ClassDiagram.Objects

/-- Why an accessor cannot run. -/
inductive CallError where
  | noMember (className role : String)
  | multiValued (className role : String)
  | singleValued (className role : String)
  | noObject
  deriving Repr, DecidableEq

/-- The wording of an error. -/
def CallError.message : CallError → String
  | noMember className role => s!"{className} has no relational member '{role}'"
  | multiValued className role => s!"'{role}' of {className} is multi valued"
  | singleValued className role => s!"'{role}' of {className} is single valued"
  | noObject => "no such object"

/-- How an exchange of calls ends: it is done, a call failed, or there was no fuel left.  The heap is as
the calls so far have left it. -/
inductive Outcome where
  | done (heap : Heap)
  | failed (heap : Heap) (error : CallError)
  | unfinished (heap : Heap)
  deriving Repr, DecidableEq

namespace Outcome

/-- The heap at the end. -/
def heap : Outcome → Heap
  | done heap => heap
  | failed heap _ => heap
  | unfinished heap => heap

/-- Goes on if the exchange is done. -/
def andThen (o : Outcome) (next : Heap → Outcome) : Outcome :=
  match o with
  | done heap => next heap
  | other => other

end Outcome

/-- A call of an accessor: the object, the accessor, the member and the argument. -/
structure Call where
  receiver : Nat
  kind : AccessorKind
  role : String
  argument : Option Nat
  deriving Repr, DecidableEq

/-- The call that an object makes on another one. -/
def PartnerCall.on (c : PartnerCall) (receiver self : Nat) : Call :=
  ⟨receiver, c.kind, c.role, if c.passesSelf then some self else none⟩

/-- Runs the call on another object, if there is one to make. -/
def passOn (run : Heap → Call → Outcome) (h : Heap) (call : Option PartnerCall)
    (receiver self : Nat) : Outcome :=
  match call with
  | none => .done h
  | some c => run h (PartnerCall.on c receiver self)

/-- Sets a slot to an object or to none: the old value is unlinked, then the new one is linked. -/
def runSet (run : Heap → Call → Outcome) (h : Heap) (self : Nat) (slot : Slot)
    (current argument : Option Nat) : Outcome :=
  if current = argument then .done h
  else
    let released : Outcome := match current with
      | none => .done h
      | some old => passOn run (h.hold self slot.name (.one none)) slot.detach old self
    released.andThen fun h =>
      let h := h.hold self slot.name (.one argument)
      match argument with
      | none => .done h
      | some new => passOn run h slot.attach new self

/-- Adds an object to a slot, unless it is there. -/
def runAdd (run : Heap → Call → Outcome) (h : Heap) (self : Nat) (slot : Slot) (values : List Nat)
    (argument : Option Nat) : Outcome :=
  match argument with
  | none => .done h
  | some new =>
    if values.contains new then .done h
    else passOn run (h.hold self slot.name (.many (values ++ [new]))) slot.attach new self

/-- Removes an object from a slot, if it is there. -/
def runRemove (run : Heap → Call → Outcome) (h : Heap) (self : Nat) (slot : Slot) (values : List Nat)
    (argument : Option Nat) : Outcome :=
  match argument with
  | none => .done h
  | some old =>
    if values.contains old then
      passOn run (h.hold self slot.name (.many (values.erase old))) slot.detach old self
    else .done h

/-- Runs a call with a runner for the calls that it makes.  A slot must be of the kind that the accessor
is for, and an accessor that runs is recorded. -/
def runWith (run : Heap → Call → Outcome) (h : Heap) (c : Call) : Outcome :=
  match h.object? c.receiver with
  | none => .failed h .noObject
  | some object =>
    match object.slot? c.role with
    | none => .failed h (.noMember object.className c.role)
    | some slot =>
      match c.kind, slot.holding with
      | .get, _ => .done h
      | .sizeOf, .many _ => .done h
      | .sizeOf, .one _ => .failed h (.singleValued object.className c.role)
      | .set, .one current =>
        runSet run (h.record c.receiver .set c.role) c.receiver slot current c.argument
      | .set, .many _ => .failed h (.multiValued object.className c.role)
      | .addTo, .many values =>
        runAdd run (h.record c.receiver .addTo c.role) c.receiver slot values c.argument
      | .addTo, .one _ => .failed h (.singleValued object.className c.role)
      | .removeFrom, .many values =>
        runRemove run (h.record c.receiver .removeFrom c.role) c.receiver slot values c.argument
      | .removeFrom, .one _ => .failed h (.singleValued object.className c.role)

/-- Runs a call and all calls that it makes, with a unit of fuel for each level. -/
def run : Nat → Heap → Call → Outcome
  | 0, h, _ => .unfinished h
  | fuel + 1, h, c => runWith (run fuel) h c

namespace Heap

/-- More levels of calls than any exchange has. -/
def enoughFuel (h : Heap) : Nat := 2 * Nat.pow (h.slotCount + h.linkCount + 2) 2

/-- Runs a call and all calls that it makes. -/
def perform (h : Heap) (c : Call) : Outcome := run h.enoughFuel h c

/-- What a slot of an object holds. -/
def get (h : Heap) (id : Nat) (role : String) : Except CallError Holding :=
  match h.object? id with
  | none => throw .noObject
  | some object =>
    match object.slot? role with
    | none => throw (.noMember object.className role)
    | some slot => return slot.holding

/-- The number of objects in a list slot of an object. -/
def sizeOf (h : Heap) (id : Nat) (role : String) : Except CallError Nat :=
  match h.object? id with
  | none => throw .noObject
  | some object =>
    match object.slot? role with
    | none => throw (.noMember object.className role)
    | some slot =>
      match slot.holding with
      | .many values => return values.length
      | .one _ => throw (.singleValued object.className role)

end Heap

end ClassDiagram.Objects
