import ClassDiagram.Proofs.Draft.History

/-!
# What a draft answers

The answers of a draft that is current depend on its tree alone: on the elements, their names, the names of their
references and the targets that were given (`IsCurrent.answersAs`).  So two drafts whose trees are the same as new
ones (`bare`) answer alike, whatever was asked of them before.
-/

set_option autoImplicit false

namespace ClassDiagram.Draft

open Relation

/-! ## Trees as new -/

/-- A reference as it is made: by its name, or with the target that was given. -/
def Pointer.anew (p : Pointer) : Pointer :=
  match p.aim with
  | .given target => .towards p.name target
  | .absent => ⟨p.name, false, .absent⟩
  | _ => .named p.name

/-- An element that remembers nothing of what it is in. -/
def bareHandle (h : Handle) : Handle := ⟨h.origin, none⟩

/-- A tree as new: nothing is remembered of what elements are in or references lead to. -/
def bare (m : Model Handle Pointer) : Model Handle Pointer := m.map bareHandle fun _ _ _ => Pointer.anew

/-- The draft of a new model with the same tree. -/
def anew (d : Draft) : Draft := linkAll ⟨bare d.model, [], none, d.additions, [], []⟩

/-! ## Answers -/

/-- The reference at a spot of a tree. -/
def referenceAt? (m : Model Handle Pointer) (s : Spot) : Option Pointer :=
  (elementAmong m.elements s.owner).bind fun e =>
    (e.references.find? fun r => r.1 = s.field ∧ r.2.1 = s.index).map (·.2.2)

/-- What the reference at a spot of the tree leads to, if there is a reference. -/
def leadsTo? (d : Draft) (s : Spot) : Option (Option Holder) :=
  (referenceAt? d.model s).map (d.targetOf s.owner s.field)

/-- The target that was given to the reference at a spot of the tree. -/
def givenTarget? (d : Draft) (s : Spot) : Option Holder :=
  (referenceAt? d.model s).bind fun p =>
    match p.aim with
    | .given target => some target
    | _ => none

/-- Whether two drafts have the same elements in their trees and answer alike what references lead to, what packages
are around an element, and what qualified and other names lead to. -/
structure AnswersAs (d d' : Draft) : Prop where
  elements : d.model.elements.map (·.place.origin) = d'.model.elements.map (·.place.origin)
  targets : ∀ s, d.leadsTo? s = d'.leadsTo? s
  chains : ∀ e ∈ d.model.elements,
    (d.packagesAround (.element e.place.origin)).map (fun p => (p.place.origin, p.name)) =
      (d'.packagesAround (.element e.place.origin)).map fun p => (p.place.origin, p.name)
  qualified : ∀ kinds name, (d.findQualified kinds name).1 = (d'.findQualified kinds name).1
  names : ∀ e ∈ d.model.elements, ∀ kinds name,
    (d.find (.element e.place.origin) kinds name).1 = (d'.find (.element e.place.origin) kinds name).1

variable {d d' : Draft} {m : Model Handle Pointer} {path : Path} {e : Element Handle Pointer}
  {around : List (Element Handle Pointer)}

/-! ## What is the same in a tree as new -/

/-- An element as new. -/
def bareElement (e : Element Handle Pointer) : Element Handle Pointer :=
  e.map bareHandle fun _ _ _ => Pointer.anew

/-- An element as new has the origin that it had. -/
@[simp] theorem origin_bareElement (e : Element Handle Pointer) :
    (bareElement e).place.origin = e.place.origin := by
  rw [bareElement, Element.place_map]
  rfl

/-- The elements of a model as new are its elements as new, in order. -/
theorem elements_bare (m : Model Handle Pointer) : (bare m).elements = m.elements.map bareElement :=
  Model.elements_map _ _ m

/-- Trees that differ only in what is remembered are the same as new. -/
theorem bare_map {f : Handle → Handle} {g : Handle → RefField → Nat → Pointer → Pointer}
    (origin : ∀ h, (f h).origin = h.origin) (anew : ∀ h field i p, (g h field i p).anew = p.anew)
    (m : Model Handle Pointer) : bare (m.map f g) = bare m := by
  rw [bare, Model.map_map, bare]
  congr 1
  · funext h
    rw [Function.comp_apply, bareHandle, origin]
    rfl
  · funext h field i p
    exact anew h field i p

/-- A model as new has the directory that it had. -/
theorem directoryOf_bare (m : Model Handle Pointer) : directoryOf (bare m) = directoryOf m :=
  directoryOf_map (f := bareHandle) (fun _ => rfl) m

/-- A name is looked up in a model as new as it is in the model. -/
theorem lookUpIn_bare (m : Model Handle Pointer) (around : List (Element Handle Pointer)) (kinds : List Kind)
    (name : String) : lookUpIn (bare m) (around.map bareElement) kinds name = lookUpIn m around kinds name :=
  lookUpIn_map (f := bareHandle) (fun _ => rfl) m around kinds name

/-- The element with an origin is found among elements as new. -/
theorem elementAmong_bare (es : List (Element Handle Pointer)) (o : Origin) :
    elementAmong (es.map bareElement) o = (elementAmong es o).map bareElement := by
  have same : (fun e : Element Handle Pointer => e.place.origin == o) ∘ bareElement =
      fun e => e.place.origin == o := by
    funext e
    rw [Function.comp_apply, origin_bareElement]
  rw [elementAmong, List.find?_map, same]
  rfl

/-- A reference of a model as new is the one that was there, as new. -/
theorem referenceAt?_bare (m : Model Handle Pointer) (s : Spot) :
    referenceAt? (bare m) s = (referenceAt? m s).map Pointer.anew := by
  rw [referenceAt?, referenceAt?, elements_bare, elementAmong_bare]
  cases elementAmong m.elements s.owner with
  | none => rfl
  | some e =>
    rw [Option.map_some, Option.bind_some, Option.bind_some, bareElement, Element.references_map, List.find?_map,
      Option.map_map, Option.map_map]
    rfl

/-- A reference that is found is one of an element of the model. -/
theorem mem_of_referenceAt? {s : Spot} {p : Pointer} (found : referenceAt? m s = some p) :
    ∃ e ∈ m.elements, e.place.origin = s.owner ∧ (s.field, s.index, p) ∈ e.references := by
  obtain ⟨e, among, found⟩ := Option.bind_eq_some_iff.1 found
  obtain ⟨⟨field, i, p'⟩, there, rfl⟩ := Option.map_eq_some_iff.1 found
  have spot := List.find?_some there
  simp only [decide_eq_true_eq] at spot
  obtain ⟨rfl, rfl⟩ := spot
  rw [elementAmong] at among
  exact ⟨e, List.mem_of_find?_eq_some among, by simpa using List.find?_some among,
    List.mem_of_find?_eq_some there⟩

/-- An element of a tree is, as new, in every tree that is the same as new, up to packages at the end, with the
same around it. -/
theorem exists_alike {m' : Model Handle Pointer} {ps : List (Package Handle Pointer)}
    (more : (bare m').packages = (bare m).packages ++ ps) (there : e ∈ m.elements) :
    ∃ path around, m.At path e around ∧ ∃ path' e' around', m'.At path' e' around' ∧
      e.place.origin = e'.place.origin ∧ (e :: around).map bareElement = (e' :: around').map bareElement := by
  obtain ⟨path, around, inside⟩ := Model.mem_elements_iff.1 there
  have new : (bare m).At path (bareElement e) (around.map bareElement) :=
    inside.map bareHandle fun _ _ _ => Pointer.anew
  obtain ⟨e', around', inside', alike, outer⟩ := (new.of_append more).of_map
  refine ⟨path, around, inside, path, e', around', inside', ?_, congrArg₂ List.cons alike outer⟩
  rw [← origin_bareElement, alike]
  exact origin_bareElement e'

/-- The packages among elements have the same origins and names as new. -/
theorem packagesAmong_bare (es : List (Element Handle Pointer)) :
    (packagesAmong (es.map bareElement)).map (fun p => (p.place.origin, p.name)) =
      (packagesAmong es).map fun p => (p.place.origin, p.name) := by
  have mapped : packagesAmong (es.map bareElement) = _ := packagesAmong_map bareHandle _ es
  rw [mapped, List.map_map]
  refine List.map_congr_left fun p _ => ?_
  obtain ⟨_, _, _, _⟩ := p
  rfl

/-! ## Answers of a current draft -/

/-- What a reference leads to whose name leads to a type, or to none. -/
def Pointer.answer (p : Pointer) (found : Option Origin) : Option Holder :=
  match p.aim with
  | .given target => some target
  | _ => found.map .element

/-- A pointer with a target that was given to it answers with this target, whatever a search finds. -/
theorem Pointer.answer_given (name : Document) (isLinked : Bool) (target : Holder) (found : Option Origin) :
    Pointer.answer ⟨name, isLinked, .given target⟩ found = some target := rfl

/-- A pointer as new answers with what a search finds as the pointer does. -/
theorem Pointer.answer_anew (p : Pointer) (found : Option Origin) : p.anew.answer found = p.answer found := by
  obtain ⟨_, _, aim⟩ := p
  cases aim <;> rfl

/-- A pointer as new has the name that it had. -/
theorem Pointer.name_anew (p : Pointer) : p.anew.name = p.name := by
  obtain ⟨_, _, aim⟩ := p
  cases aim <;> rfl

/-- A reference of a current draft leads to the target that was given, or to what its name leads to. -/
theorem IsCurrent.targetOf_eq (current : d.IsCurrent) (there : e ∈ d.model.elements) {r : RefField × Nat × Pointer}
    (among : r ∈ e.references) :
    d.targetOf e.place.origin r.1 r.2.2 = r.2.2.answer (d.lookUpGiven e.place.origin r.1 r.2.2.name) := by
  have present := current.sound.present e (mem_elements_of_tree there) r among
  have linked := current.linked e there r among
  have kept := current.settled e there r among
  obtain ⟨field, i, name, isLinked, aim⟩ := r
  cases aim with
  | unknown => exact if_pos linked
  | settled origin => exact congrArg (Option.map Holder.element) (kept origin rfl)
  | given target => rfl
  | absent => exact Bool.noConfusion present

/-- In a draft that is current a reference leads where its name does now, unless a target was given to it. -/
theorem IsCurrent.leadsTo?_eq (current : d.IsCurrent) {s : Spot} {p : Pointer}
    (found : referenceAt? d.model s = some p) :
    d.leadsTo? s = some (p.answer (d.lookUpGiven s.owner s.field p.name)) := by
  obtain ⟨e, there, owner, among⟩ := mem_of_referenceAt? found
  rw [leadsTo?, found, Option.map_some, ← owner]
  exact congrArg some (current.targetOf_eq there among)

section

variable (current : d.IsCurrent) (current' : d'.IsCurrent) (same : bare d.model = bare d'.model)

include same in
/-- Drafts that are the same as new have the same elements, in the same surroundings. -/
theorem exists_alike_of_bare (there : e ∈ d.model.elements) :
    ∃ path around, d.model.At path e around ∧ ∃ path' e' around', d'.model.At path' e' around' ∧
      e.place.origin = e'.place.origin ∧ (e :: around).map bareElement = (e' :: around').map bareElement := by
  have more : (bare d'.model).packages = (bare d.model).packages ++ [] := by rw [same, List.append_nil]
  exact exists_alike more there

include current current' same

/-- Drafts with the same tree look up names alike. -/
theorem lookUp_congr (there : e ∈ d.model.elements) (kinds : List Kind) (name : String) :
    d.lookUp (.element e.place.origin) kinds name = d'.lookUp (.element e.place.origin) kinds name := by
  obtain ⟨_, around, inside, _, e', around', inside', origin, alike⟩ :=
    exists_alike_of_bare same there
  rw [current.lookUp_eq inside, origin, current'.lookUp_eq inside', ← lookUpIn_bare, alike, same, lookUpIn_bare]

/-- References lead to the same in drafts that are the same as new. -/
theorem leadsTo?_congr (s : Spot) : d.leadsTo? s = d'.leadsTo? s := by
  have alike := (referenceAt?_bare d.model s).symm.trans (same ▸ referenceAt?_bare d'.model s)
  cases found : referenceAt? d.model s with
  | none =>
    rw [found] at alike
    rw [leadsTo?, leadsTo?, found, Option.map_eq_none_iff.1 alike.symm, Option.map_none, Option.map_none]
  | some p =>
    rw [found] at alike
    obtain ⟨p', found', anew⟩ := Option.map_eq_some_iff.1 alike.symm
    obtain ⟨e, there, owner, _⟩ := mem_of_referenceAt? found
    have looked : d.lookUpGiven s.owner s.field p.name = d'.lookUpGiven s.owner s.field p.name :=
      lookUpGiven_congr (fun name => owner ▸ lookUp_congr current current' same there s.field.kinds name) p.name
    rw [current.leadsTo?_eq found, current'.leadsTo?_eq found', looked, ← p.answer_anew, ← p'.answer_anew,
      ← p.name_anew, ← p'.name_anew, anew]

/-- The answers of a current draft depend on its tree alone. -/
theorem IsCurrent.answersAs : d.AnswersAs d' where
  elements := by
    have alike := (elements_bare d.model).symm.trans (same ▸ elements_bare d'.model)
    have origins := congrArg (List.map (·.place.origin)) alike
    rw [List.map_map, List.map_map] at origins
    simpa [Function.comp_def] using origins
  targets s := leadsTo?_congr current current' same s
  chains e there := by
    obtain ⟨_, around, inside, _, e', around', inside', origin, alike⟩ :=
      exists_alike_of_bare same there
    rw [packagesAround, packagesAround, packagesFrom_eq current.sound current.placed inside, origin,
      packagesFrom_eq current'.sound current'.placed inside', List.map_reverse, List.map_reverse,
      ← packagesAmong_bare, alike, packagesAmong_bare]
  qualified kinds name := by
    rw [findQualified_eq current.sound current.placed, findQualified_eq current'.sound current'.placed]
    have alike := (directoryOf_bare d.model).symm.trans (same ▸ directoryOf_bare d'.model)
    exact congrArg (fun x : Directory Entry => x.tree.findQualified kinds name) alike
  names e there kinds name := lookUp_congr current current' same there kinds name

end

end ClassDiagram.Draft
