import ClassDiagram.Draft.Analysis
import ClassDiagram.Draft.Edit
import ClassDiagram.Report.Draft
import ClassDiagram.Report.Generation
import ClassDiagram.Report.Structure
import ClassDiagram.Script.Basic

/-!
# Scripts that work on drafts

A step looks at a draft or edits it.  Its arguments are the entries of a mapping; they are looked at in a
fixed order, so of several faults the first one shows.
-/

set_option autoImplicit false

namespace ClassDiagram.Script

open Draft

/-- A draft under a script: an element outside the tree that paths can name, and the files of profiles. -/
structure Desk where
  draft : Draft
  detached : Origin
  files : FileTree

namespace Desk

/-- The class outside the tree. -/
def detachedItem : Element Unit String := .classifier ⟨(), "Detached", .classBody ⟨false, [], [], [], []⟩⟩

/-- A desk with the draft of a model. -/
def start (files : FileTree) (m : Declared) : Desk :=
  let draft := Draft.ofDeclared m
  ⟨draft.addAside detachedItem, (draft.newElement detachedItem).place.origin, files⟩

/-- What becomes of a desk, with the result of a step. -/
abbrev Outcome := Result × Draft

/-- What a path names. -/
def locate (k : Desk) (path : Document) : Except Misfit Holder :=
  k.draft.locate [("detached", k.detached)] path

/-- What the path under a name of a step names. -/
def holderIn (k : Desk) (step : Document) (name : String) : Except Misfit Holder := do
  k.locate (← step.entry name)

/-- The field that a step names. -/
def fieldIn (step : Document) (name : String) : Except Misfit String := do
  match ← step.entry name with
  | .text field => return field
  | other => throw (.notFieldName other.fullKindName)

/-- A value of a step that is not given if it is null. -/
def valueIfAny (step : Document) (name : String) : Option Document :=
  (step.entry? name).filter (· != .null)

/-- The outcome of a step that leaves the draft as it is. -/
def answer (k : Desk) (result : Except Misfit Document) : Outcome := (orMisfit result, k.draft)

/-- The outcome of an edit: nothing, and the draft after it. -/
def edited (k : Desk) : Except Fault Draft → Outcome
  | .ok draft => (return .null, draft)
  | .error fault => (throw fault, k.draft)

/-- The outcome of an analysis, whose answer is told as a document. -/
def analysed {α : Type} (tell : α → Document) (answer : Except Misfit α × Draft) : Outcome :=
  (orMisfit (answer.1.map tell), answer.2)

/-! ## Names -/

/-- The kinds that a step names, or the standard ones. -/
def kindsIn (step : Document) : Except Misfit (List Kind) :=
  match valueIfAny step "kinds" with
  | none => return Kind.ofValues
  | some words => do
    (← words.asParts).mapM fun word => do
      let word ← word.asKey
      match Kind.all.find? fun kind => word == .text kind.word with
      | some kind => return kind
      | none => throw (.noEntry (← lineText word))

/-- Looks up a qualified name. -/
def findQualified (k : Desk) (kinds : List Kind) (name : Document) : Outcome :=
  match name with
  | .text name =>
    match if (nameSegments name).isEmpty then pure () else k.draft.indexed with
    | .error e => k.answer (throw e)
    | .ok _ =>
      let (found, after) := k.draft.findQualified kinds name
      (return Report.optional (Report.entry after) found, after)
  | other => k.answer (throw (.notSearched other.fullKindName))

/-- Looks up a name from a holder. -/
def findFrom (k : Desk) (scope : Holder) (kinds : List Kind) (name : Document) : Outcome :=
  match name with
  | .text name =>
    match if k.draft.usesIndex scope name then k.draft.indexed else pure () with
    | .error e => k.answer (throw e)
    | .ok _ =>
      let (found, after) := k.draft.find scope kinds name
      (return Report.optional (Report.entry after) found, after)
  | other =>
    if other.isGiven && k.draft.isInModel (some scope) then
      k.answer (throw (.notSearched other.fullKindName))
    else k.answer (return .null)

/-- Goes on with arguments of a step, if they fit. -/
def given {α : Type} (k : Desk) (arguments : Except Misfit α) (next : α → Outcome) : Outcome :=
  match arguments with
  | .ok a => next a
  | .error e => k.answer (throw e)

/-! ## Places -/

/-- The elements of packages. -/
def packagesAround (k : Desk) (h : Holder) : Document :=
  Report.each (fun p => Report.origin k.draft p.place.origin) (k.draft.packagesAround h)

/-- Where a holder is: what it is in, its nearest package, its model and its qualified name. -/
def whereabouts (k : Desk) (h : Holder) (separator : Option Document) : Except Misfit Document := do
  let d := k.draft
  let separator ← match separator.getD (.text ".") with
    | .text separator => pure separator
    | other => throw (.noField other.fullKindName "join")
  let names ← d.homeTexts h
  return .list [Report.optional (Report.holder d) (d.container? h),
    Report.optional (fun p => Report.origin d p.place.origin) (d.nearestPackage? h),
    if d.isInModel (some h) then Report.holder d .model else .null,
    .text (joinedNames separator names)]

/-! ## Edits -/

/-- Sets an attribute of a holder. -/
def set (k : Desk) (step : Document) : Except Misfit Draft := do
  let value ← step.entry "value"
  let word ← step.entry "attr"
  match word, value with
  | .text "visibility", .null => pure ()
  | .text "visibility", value => discard (Diagram.Vocabulary.visibilityOf value)
  | .text "aggregation", value => discard (Diagram.Vocabulary.aggregationOf value)
  | _, _ => pure ()
  let holder ← k.holderIn step "at"
  let field ← fieldIn step "attr"
  if k.draft.isDerived holder field then throw (.notSettable (k.draft.holderSort holder) field)
  return k.draft.set holder field value

/-- The element that a value declares for a list. -/
def itemOf (branch : Branch) (item : Document) : Except LoadError (Element Unit String) :=
  match branch with
  | .packages => (Loading.packageOf "" item).map .package
  | .types => (Loading.typeOf "" item).map .classifier
  | .properties => (Loading.propertyOf "" item).map .property
  | .operations => (Loading.operationOf "" item).map .operation
  | .parameters => (Loading.parameterOf "" item).map .parameter
  | .ends => (Loading.propertyOf "" item).map .property

/-- The place to put an element at; at the end unless it is given. -/
def positionIn (step : Document) : Except Misfit (Option Int) :=
  match step.entry? "index" with
  | none => return none
  | some value =>
    match value.asInt? with
    | none => throw (.notPosition value.fullKindName)
    | some i => if isHuge i then throw .hugePosition else return some i

/-- Adds an element to a list of a holder. -/
def add (k : Desk) (step : Document) : Except Fault Draft := do
  let (holder, word) ← orMisfit do
    let holder ← k.holderIn step "at"
    let word ← fieldIn step "list"
    (← k.draft.field holder word).mustBeList "insert"
    return (holder, word)
  match Branch.ofWord? word with
  | none => throw (.misfit (.noEntry word))
  | some branch =>
    let item ← (itemOf branch (← orMisfit (step.entry "item"))).mapError .load
    orMisfit (do k.draft.add holder branch item (← positionIn step))

/-- The list that the last segment of a path is about. -/
def branchOfPath : Document → Except Misfit Branch
  | .text path => Branch.ofSegment ((segmentsOf path).getLast?.getD "")
  | other => throw (.noField other.fullKindName "split")

/-- Takes an element out of its list, and puts it in the same list of another holder if one is named.  The
other holder is looked for after the element is out. -/
def remove (k : Desk) (step : Document) : Outcome :=
  let arguments : Except Misfit (Option (Element Handle Pointer) × Branch) := do
    let path ← step.entry "at"
    let holder ← k.locate path
    let branch ← branchOfPath path
    return (match holder with
      | .model => none
      | .element origin => k.draft.element? origin, branch)
  k.given arguments fun (element, branch) =>
    match element with
    | none => k.answer (return .null)
    | some e =>
      let without := { k with draft := k.draft.remove e }
      match valueIfAny step "to" with
      | none => (return .null, without.draft)
      | some path => without.edited (orMisfit do
        without.draft.putBack e (← without.locate path) branch)

/-- The reference that a step makes: by a name, to an element, or none. -/
def newReference (k : Desk) (step : Document) : Except Misfit (Option Pointer) := do
  let pin ← match valueIfAny step "pin" with
    | none => pure none
    | some path => (k.locate path).map some
  match ← step.entry "name", pin with
  | .null, none => return none
  | .null, some target => return some (.towards (← k.draft.nameHeld target) target)
  | name, none => return some (.named name)
  | name, some target => return some (.towards name target)

/-- Sets a reference of a holder. -/
def setReference (k : Desk) (step : Document) : Except Misfit (Document × Draft) := do
  let reference ← k.newReference step
  let holder ← k.holderIn step "at"
  let word ← fieldIn step "field"
  let pointer := reference.getD .absent
  let after ← match word, valueIfAny step "index" with
    | "type", _ => pure (k.draft.setType holder reference)
    | _, some index => k.draft.setSuper holder word index pointer
    | _, none => k.draft.addSuper holder word pointer
  return (.text pointer.text, after)

/-- The reference that a step is about, with its holder, field and position; `use` is made of it. -/
def referenceIn (k : Desk) (step : Document) (use : String) :
    Except Misfit (Holder × String × Nat × Pointer) := do
  let holder ← k.holderIn step "at"
  let word ← fieldIn step "field"
  let (position, p) ← k.draft.referenceIn holder word ((step.entry? "index").getD (.int 0)) use
  return (holder, word, position, p)

/-- Looks at a reference: how it is shown, whether and where it leads, and what it belongs to. -/
def lookAt (k : Desk) (step : Document) : Outcome :=
  k.given (k.referenceIn step "is_resolved") fun (holder, word, position, p) =>
    let d := k.draft
    match holder, RefField.ofWord? word with
    | .element origin, some field =>
      analysed id (d.ask do
        let target ← d.read origin field position p
        return .list [.text p.text, .bool target.isSome, Report.optional (Report.holder d) target,
          if p.isLinked then Report.origin d origin else .null])
    | _, _ =>
      let target : Option Holder := match p.aim with
        | .given target => some target
        | _ => none
      k.answer (return .list [.text p.text, .bool target.isSome,
        Report.optional (Report.holder d) target, .null])

/-- Forgets where a reference leads, if it was looked up. -/
def forget (k : Desk) (step : Document) : Except Misfit Draft := do
  let (holder, word, position, _) ← k.referenceIn step "reset"
  match holder, RefField.ofWord? word with
  | .element origin, some field => return k.draft.forget origin field position
  | _, _ => return k.draft

/-! ## Generation -/

/-- The configuration that a step gives. -/
def configurationIn (step : Document) : Except Misfit Configuration :=
  match step.entry? "config" with
  | some (.map fields) => Configuration.ofFields fields
  | _ => return .standard

/-- Writes the Java files. -/
def writeSources (k : Desk) (c : Configuration) : Outcome :=
  match c.typeTable k.files with
  | .error e => (throw (.profile e), k.draft)
  | .ok table => analysed Report.sources (k.draft.sources (c.javaSettings table))

/-- Generates all files. -/
def generate (k : Desk) (c : Configuration) : Outcome :=
  let (generated, after) := k.draft.generate c k.files
  ((generated.map fun g => Report.record (Report.generated g)).mapError .generation, after)

/-! ## Steps -/

/-- The members that associations add to what a path names. -/
def members (k : Desk) (holder : Holder) : Outcome :=
  match holder with
  | .model => analysed (fun _ => .list []) (k.draft.ask k.draft.readEnds)
  | .element origin => analysed (Report.each Report.member) (k.draft.members origin)

/-- The other end of the association of what a path names. -/
def opposite (k : Desk) (holder : Holder) : Except Misfit Document :=
  match holder with
  | .model => throw (.noField (k.draft.holderSort holder) "container")
  | .element origin => return Report.keyIfAny (k.draft.opposite? origin)

/-- The index of the names as they are now, or the one that is kept. -/
def tree (k : Desk) (isKept : Bool) : Outcome :=
  let d := k.draft
  if isKept then
    k.given d.indexed fun _ => (return Report.index d d.currentIndex, d.keepIndex)
  else
    k.given ({ d with index := none } : Draft).indexed fun _ => (return Report.index d d.freshIndex, d)

/-- Takes a step of a kind. -/
def take (k : Desk) (kind : String) (step : Document) : Outcome :=
  let d := k.draft
  let place := k.holderIn step "at"
  match kind with
  | "dump" => analysed (fun _ => Report.draft d) d.links
  | "link" =>
    let (linked, after) := d.link
    (orMisfit (linked.map fun _ => .bool true), after)
  | "iter" => k.answer (return Report.contents d)
  | "set" => k.edited (orMisfit (k.set step))
  | "add" => k.edited (k.add step)
  | "remove" => k.remove step
  | "set_ref" =>
    match k.setReference step with
    | .ok (text, after) => (return text, after)
    | .error e => k.answer (throw e)
  | "ref" => k.lookAt step
  | "reset_ref" => k.edited (orMisfit (k.forget step))
  | "resolve_ref" => k.answer (do discard (step.entry "name"); return .null)
  | "find" => k.given (step.entry "name") (k.findQualified Kind.all)
  | "resolve_qualified" =>
    k.given (do return (← step.entry "name", ← kindsIn step)) fun (name, kinds) =>
      k.findQualified kinds name
  | "resolve" =>
    k.given (do return (← step.entry "name", ← k.holderIn step "scope", ← kindsIn step))
      fun (name, scope, kinds) => k.findFrom scope kinds name
  | "chain" => k.answer (do return k.packagesAround (← place))
  | "where" => k.answer (do k.whereabouts (← place) (step.entry? "separator"))
  | "tree" => k.tree false
  | "cached_tree" => k.tree true
  | "validate" =>
    analysed Report.diagnostics (d.diagnostics ((step.entry? "refs").all (·.isGiven)))
  | "members" => k.given place k.members
  | "opposite" => k.answer (do k.opposite (← place))
  | "cycles" =>
    analysed (Report.each fun (field, c) => Report.cycle (RefField.word field) c) d.cycles
  | "java" => k.given (configurationIn step) k.writeSources
  | "plantuml" => k.given (configurationIn step) fun c =>
    analysed Report.diagrams (d.diagrams (c.diagramSettings .standard) .standard)
  | "pipeline" => k.given (configurationIn step) k.generate
  | _ => (throw .unknownStep, d)

/-- Takes a step. -/
def step (k : Desk) (step : Document) : Result × Desk :=
  let (result, after) : Outcome :=
    match step.entry "do" with
    | .error e => k.answer (throw e)
    | .ok (.text kind) => k.take kind step
    | .ok _ => (throw .unknownStep, k.draft)
  (result, { k with draft := after })

end Desk

/-- The rows of a script that works on a draft of a model. -/
def workOnDraft (tell : Fault → Document) (files : FileTree) (m : Declared) (steps : List Document) :
    List Document :=
  run (fun k step =>
    let (result, after) := k.step step
    (result.told tell, after)) (Desk.start files m) steps

/-- The graph of a declared model over a field, for the elements that paths name. -/
def superGraph (m : Declared) (field : Document) (paths : List Document) : Except Misfit Document := do
  let d := Draft.ofDeclared m
  let holders ← paths.mapM (d.locate [])
  match field with
  | .text field => return .list [Report.graph field (← d.superGraph holders field)]
  | other =>
    if holders.isEmpty then return .list [Report.graph "" ⟨[], []⟩]
    else throw (.notFieldName other.fullKindName)

end ClassDiagram.Script
