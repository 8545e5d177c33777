import ClassDiagram.Generation
import ClassDiagram.Model.Loading
import ClassDiagram.Objects.Exchange

/-!
# Scripts

A script is a row of steps that are taken one after another; each has a result or a fault of its own, and
leaves a state for the next one.  What the steps are, and what they work on, is told in the modules beside
this one.
-/

set_option autoImplicit false

namespace ClassDiagram.Script

/-- Why a step has no result. -/
inductive Fault where
  | misfit (cause : Misfit)
  | load (error : LoadError)
  | profile (error : ProfileError)
  | generation (error : GenerationError)
  | call (error : Objects.CallError)
  /-- The step is none that there is. -/
  | unknownStep
  /-- A call among objects does not end. -/
  | endless
  deriving Repr

/-- What a step gives. -/
abbrev Result := Except Fault Document

/-- A result that is a document, with faults told as documents too. -/
def Result.told (tell : Fault → Document) : Result → Document
  | .ok value => value
  | .error fault => tell fault

/-- The result of a use of a value. -/
def orMisfit {α : Type} (x : Except Misfit α) : Except Fault α := x.mapError .misfit

/-- Takes the steps of a script in turn; each gives a row. -/
def run {σ : Type} (step : σ → Document → Document × σ) (state : σ) : List Document → List Document
  | [] => []
  | s :: rest =>
    let (row, next) := step state s
    row :: run step next rest

/-! ## Arguments -/

/-- What an action is called, and the arguments that it takes: those that it needs and how many more. -/
structure Signature where
  action : String
  needed : List String
  more : Nat

/-- Whether an action is given as many arguments as it takes.  The thing that it acts on counts as one. -/
def Signature.check (s : Signature) (arguments : List Document) : Except Misfit Unit :=
  let given := arguments.length
  let least := s.needed.length
  if least + s.more < given then throw (.tooMany s.action (least + 1) (least + s.more + 1) (given + 1))
  else if given < least then throw (.lacking s.action (s.needed.drop given))
  else return

/-- The signature of an action among those with names. -/
def signatureOf (signatures : List (String × Signature)) (name : Document) : Except Misfit Signature :=
  match name with
  | .text word =>
    match signatures.lookup word with
    | some s => return s
    | none => throw (.noEntry word)
  | other => do throw (.noEntry (← lineText (← other.asKey)))

/-- The text of a line that a value gives; only a text can stand in one. -/
def lineOf (indent : Indent) (depth : Nat) (value : Document) : Except Misfit String :=
  match value with
  | .text text => return text
  | other => do
    if !other.isGiven then return ""
    else
      discard (indentedLine indent depth "?")
      throw (.notAppended "str" other.fullKindName)

/-- The text of a value, where one that does not count has none. -/
def countedText (value : Document) : Except Misfit String :=
  if value.isGiven then lineText value else return ""

end ClassDiagram.Script
