import ClassDiagram.Model.Change
import ClassDiagram.Proofs.Model.Elements

/-!
# What changes do to the elements of a tree

A change acts on the parts of an element first (`Change.ofParts`) and then on the element itself
(`Change.own`).  So what holds of all that an element holds after a change follows from what the change makes of single
elements and which parts it puts in (`Change.forall_all_ofElement`).
-/

set_option autoImplicit false

namespace ClassDiagram

variable {ι ρ : Type}

/-! ## The lists of a type after a change -/

section

variable (place : ι) (name : String) (body : Body ι ρ)

/-- The parts of a type whose parts are changed are its parts, changed. -/
theorem Classifier.parts_changed (f : Property ι ρ → Property ι ρ) (g : Operation ι ρ → Operation ι ρ) :
    (Element.classifier ⟨place, name, ((body.changeProperties (·.map f)).changeOperations (·.map g))
      |>.changeEnds (·.map f)⟩).parts =
      (⟨place, name, body⟩ : Classifier ι ρ).properties.map (.property ∘ f) ++
        (⟨place, name, body⟩ : Classifier ι ρ).operations.map (.operation ∘ g) ++
        (⟨place, name, body⟩ : Classifier ι ρ).ends.map (.property ∘ f) := by
  rw [Element.parts_classifier, ← List.map_map, ← List.map_map, ← List.map_map]
  cases body <;> rfl

end

namespace Change

variable (r : Change ι ρ)

/-! ## A change as two steps -/

/-- What becomes of an element itself. -/
def own : Element ι ρ → Element ι ρ
  | .package p => .package (r.package p)
  | .classifier t => .classifier (r.classifier t)
  | .property p => .property (r.property p)
  | .operation o => .operation (r.operation o)
  | .parameter p => .parameter (r.parameter p)

/-- An element of which only the parts are changed. -/
def ofParts : Element ι ρ → Element ι ρ
  | .package p =>
    .package { p with packages := p.packages.map r.ofPackage, types := p.types.map r.ofClassifier }
  | .classifier t =>
    .classifier { t with body := ((t.body.changeProperties (·.map r.property)).changeOperations
      (·.map r.ofOperation)) |>.changeEnds (·.map r.property) }
  | .operation o => .operation { o with parameters := o.parameters.map r.parameter }
  | .property p => .property p
  | .parameter p => .parameter p

/-- Packages are changed one by one. -/
theorem ofPackages_eq (ps : List (Package ι ρ)) : r.ofPackages ps = ps.map r.ofPackage := by
  induction ps with
  | nil => rfl
  | cons p rest ih => rw [ofPackages, ih, List.map_cons]

/-- A change acts on the parts of an element and then on the element itself. -/
theorem ofElement_eq (e : Element ι ρ) : r.ofElement e = r.own (r.ofParts e) := by
  cases e with
  | package p =>
    obtain ⟨place, name, packages, types⟩ := p
    rw [ofElement, ofPackage, ofPackages_eq]
    rfl
  | classifier t => rfl
  | property p => rfl
  | operation o => rfl
  | parameter p => rfl

/-- An element whose parts are changed has its parts changed. -/
theorem parts_ofParts (e : Element ι ρ) : (r.ofParts e).parts = e.parts.map r.ofElement := by
  cases e with
  | package p =>
    rw [ofParts, Element.parts_package, Element.parts_package, List.map_append, List.map_map, List.map_map,
      List.map_map, List.map_map]
    rfl
  | classifier t =>
    rw [ofParts, Classifier.parts_changed, Element.parts_classifier, List.map_append, List.map_append,
      List.map_map, List.map_map, List.map_map]
    rfl
  | property p => rfl
  | operation o =>
    rw [ofParts, Element.parts_operation, Element.parts_operation, List.map_map, List.map_map]
    rfl
  | parameter p => rfl

/-- An element whose parts are changed stays at its place. -/
@[simp] theorem place_ofParts (e : Element ι ρ) : (r.ofParts e).place = e.place := by
  cases e <;> rfl

/-- An element whose parts are changed keeps its references. -/
@[simp] theorem references_ofParts (e : Element ι ρ) : (r.ofParts e).references = e.references := by
  cases e with
  | classifier t =>
    obtain ⟨place, name, body⟩ := t
    cases body <;> rfl
  | package p => rfl
  | property p => rfl
  | operation o => rfl
  | parameter p => rfl

/-! ## All that an element holds after a change -/

variable {r}

/-- What holds of all elements before a change, and of what the change makes of such elements and puts in,
holds of all elements after it. -/
theorem forall_all_ofElement {P : Element ι ρ → Prop} (own : ∀ c, P c → P (r.own (r.ofParts c)))
    (parts : ∀ c, ∀ y ∈ (r.own c).parts, y ∈ c.parts ∨ ∀ x ∈ y.all, P x) {e : Element ι ρ}
    (before : ∀ x ∈ e.all, P x) : ∀ x ∈ (r.ofElement e).all, P x := by
  induction e using Element.induction with
  | step e ih =>
    intro x there
    rw [ofElement_eq] at there
    rcases Element.mem_all.1 there with rfl | ⟨y, part, inside⟩
    · exact own e (before e e.self_mem_all)
    · rcases parts _ y part with old | new
      · rw [parts_ofParts] at old
        obtain ⟨c, among, rfl⟩ := List.mem_map.1 old
        exact ih c among (fun x held => before x (Element.mem_all.2 (.inr ⟨c, among, held⟩))) x inside
      · exact new x inside

end Change

/-! ## Changing nothing -/

/-- The change that changes nothing. -/
def Change.none : Change ι ρ := {}

/-- No change leaves a type as it is. -/
theorem Change.ofClassifier_none (t : Classifier ι ρ) : (Change.none : Change ι ρ).ofClassifier t = t := by
  have properties (ps : List (Property ι ρ)) : ps.map (Change.none : Change ι ρ).property = ps := List.map_id ps
  have operations (os : List (Operation ι ρ)) : os.map (Change.none : Change ι ρ).ofOperation = os := by
    refine (List.map_congr_left fun o _ => ?_).trans (List.map_id os)
    obtain ⟨_, _, _, _, _, parameters, _, _, _, _, _⟩ := o
    exact congrArg (Operation.mk _ _ _ _ _ · _ _ _ _ _) (List.map_id parameters)
  obtain ⟨place, name, body⟩ := t
  rw [ofClassifier]
  cases body with
  | classBody c =>
    simp only [Body.changeProperties, Body.changeOperations, Body.changeEnds, properties, operations]
    rfl
  | interface c =>
    simp only [Body.changeProperties, Body.changeOperations, Body.changeEnds, properties, operations]
    rfl
  | datatype ps =>
    simp only [Body.changeProperties, Body.changeOperations, Body.changeEnds, properties]
    rfl
  | primitive => rfl
  | enumeration literals => rfl
  | association ends =>
    simp only [Body.changeProperties, Body.changeOperations, Body.changeEnds, properties]
    rfl

/-- No change leaves packages as they are. -/
theorem Change.ofPackages_none : (ps : List (Package ι ρ)) → (Change.none : Change ι ρ).ofPackages ps = ps
  | [] => rfl
  | ⟨place, name, packages, types⟩ :: rest => by
    have held : types.map (Change.none : Change ι ρ).ofClassifier = types :=
      (List.map_congr_left fun t _ => Change.ofClassifier_none t).trans (List.map_id types)
    rw [ofPackages, ofPackage, ofPackages_none packages, ofPackages_none rest, held]
    rfl

/-- No change leaves a model as it is. -/
theorem Change.ofModel_none (m : Model ι ρ) : (Change.none : Change ι ρ).ofModel m = m :=
  congrArg Model.mk (Change.ofPackages_none m.packages)

/-- A property whose places and references stay is the same. -/
theorem Property.map_self (p : Property ι ρ) : p.map id (fun _ _ _ r => r) = p := by
  obtain ⟨_, _, type, _, _, _, _, _⟩ := p
  cases type <;> rfl

/-- An operation whose places and references stay is the same. -/
theorem Operation.map_self (o : Operation ι ρ) : o.map id (fun _ _ _ r => r) = o := by
  have parameters (rs : List (Parameter ι ρ)) : rs.map (·.map id fun _ _ _ r => r) = rs := by
    refine (List.map_congr_left fun r _ => ?_).trans (List.map_id rs)
    obtain ⟨_, _, type, _⟩ := r
    cases type <;> rfl
  obtain ⟨_, _, type, _, _, rs, _, _, _, _, _⟩ := o
  rw [Operation.map, parameters]
  cases type <;> rfl

/-- A type whose places and references stay is the same. -/
theorem Classifier.map_self (t : Classifier ι ρ) : t.map id (fun _ _ _ r => r) = t := by
  have properties (ps : List (Property ι ρ)) : ps.map (·.map id fun _ _ _ r => r) = ps :=
    (List.map_congr_left fun p _ => p.map_self).trans (List.map_id ps)
  have operations (os : List (Operation ι ρ)) : os.map (·.map id fun _ _ _ r => r) = os :=
    (List.map_congr_left fun o _ => o.map_self).trans (List.map_id os)
  have supers (rs : List ρ) : rs.mapIdx (fun _ r => r) = rs := by
    refine List.ext_getElem? fun n => ?_
    simp
  obtain ⟨place, name, body⟩ := t
  rw [Classifier.map]
  cases body with
  | classBody c =>
    rw [Body.map, properties, operations, supers, supers]
    rfl
  | interface c =>
    rw [Body.map, properties, operations, supers]
    rfl
  | datatype ps =>
    rw [Body.map, properties]
    rfl
  | primitive => rfl
  | enumeration literals => rfl
  | association ends =>
    rw [Body.map, properties]
    rfl

/-- Packages whose places and references stay are the same. -/
theorem mapPackages_self : (ps : List (Package ι ρ)) → mapPackages id (fun _ _ _ r => r) ps = ps
  | [] => rfl
  | ⟨place, name, packages, types⟩ :: rest => by
    have held : types.map (·.map id fun _ _ _ r => r) = types :=
      (List.map_congr_left fun t _ => t.map_self).trans (List.map_id types)
    rw [mapPackages, Package.map, mapPackages_self packages, mapPackages_self rest, held]
    rfl

/-- Replacing nothing leaves a model as it is. -/
theorem Model.map_self (m : Model ι ρ) : m.map id (fun _ _ _ r => r) = m :=
  congrArg Model.mk (mapPackages_self m.packages)

end ClassDiagram
