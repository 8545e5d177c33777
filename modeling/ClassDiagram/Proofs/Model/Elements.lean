import ClassDiagram.Linking
import Mathlib.Data.List.Basic
import Mathlib.Data.List.Nodup

/-!
# The tree of elements

The elements of a model as one tree, whatever their sorts: an element has parts, and a part is reached by
a step (`Element.steps`).  What holds of an element whenever it holds of its parts holds of every element
(`Element.induction`).  `Model.At` says which element is at a position and what is around it; every element
of a model is at one position, and no position has two elements.
-/

set_option autoImplicit false

namespace ClassDiagram

variable {ι ρ κ σ μ τ : Type}

/-! ## Parts -/

/-- The items of a list as elements, each with the step that leads to it. -/
def numberedParts {α : Type} (step : Nat → Step) (element : α → Element ι ρ) (items : List α) :
    List (Step × Element ι ρ) :=
  items.zipIdx.map fun (item, i) => (step i, element item)

section

variable {α : Type} {step : Nat → Step} {element : α → Element ι ρ} {items : List α}

/-- Parts with numbers are the parts, in order. -/
@[simp] theorem numberedParts_map_snd :
    (numberedParts step element items).map Prod.snd = items.map element := by
  rw [numberedParts, List.map_map, ← List.zipIdx_map_fst 0 items, List.map_map]
  simp [Function.comp_def]

/-- The numbers of parts are their places, from zero. -/
theorem numberedParts_map_fst :
    (numberedParts step element items).map Prod.fst = (List.range items.length).map step := by
  rw [numberedParts, List.map_map, List.range_eq_range', ← List.zipIdx_map_snd 0 items, List.map_map]
  rfl

/-- Parts are at distinct steps. -/
theorem nodup_numberedParts (apart : Function.Injective step) :
    ((numberedParts step element items).map Prod.fst).Nodup := by
  rw [numberedParts_map_fst]
  exact List.nodup_range.map apart

/-- A part with a number is the item at that place. -/
theorem mem_numberedParts {part : Step × Element ι ρ} :
    part ∈ numberedParts step element items ↔
      ∃ i item, items[i]? = some item ∧ part = (step i, element item) := by
  simp only [numberedParts, List.mem_map, Prod.exists, List.mem_zipIdx_iff_getElem?]
  constructor
  · rintro ⟨item, i, there, rfl⟩
    exact ⟨i, item, there, rfl⟩
  · rintro ⟨i, item, there, rfl⟩
    exact ⟨item, i, there, rfl⟩

/-- Items that are changed are numbered as they were. -/
theorem map_numberedParts {β : Type} (f : α → β) (element : β → Element ι ρ) :
    numberedParts step element (items.map f) = numberedParts step (element ∘ f) items := by
  simp [numberedParts, List.zipIdx_map, Function.comp_def]

end

/-- The elements that an element holds itself, each with the step that leads to it, in the order in which
they are visited. -/
def Element.steps : Element ι ρ → List (Step × Element ι ρ)
  | .package p => numberedParts .package .package p.packages ++ numberedParts .type .classifier p.types
  | .classifier t =>
    numberedParts .property .property t.properties ++ numberedParts .operation .operation t.operations ++
      numberedParts .associationEnd .property t.ends
  | .operation o => numberedParts .parameter .parameter o.parameters
  | .property _ => []
  | .parameter _ => []

/-- The elements that an element holds itself. -/
def Element.parts (e : Element ι ρ) : List (Element ι ρ) := e.steps.map Prod.snd

namespace Element

/-- The parts of a package are its packages and its types. -/
@[simp] theorem parts_package (p : Package ι ρ) :
    (package p).parts = p.packages.map package ++ p.types.map classifier := by
  simp [parts, steps]

/-- The parts of a type are its properties, its operations and its ends. -/
@[simp] theorem parts_classifier (t : Classifier ι ρ) :
    (classifier t).parts = t.properties.map property ++ t.operations.map operation ++
      t.ends.map property := by
  simp [parts, steps]

/-- The parts of an operation are its parameters. -/
@[simp] theorem parts_operation (o : Operation ι ρ) :
    (operation o).parts = o.parameters.map parameter := by
  simp [parts, steps]

/-- A property has no parts. -/
@[simp] theorem parts_property (p : Property ι ρ) : (property p).parts = [] := rfl

/-- A parameter has no parts. -/
@[simp] theorem parts_parameter (r : Parameter ι ρ) : (parameter r).parts = [] := rfl

/-- Different parts of an element are reached by different steps. -/
theorem nodup_steps (e : Element ι ρ) : (e.steps.map Prod.fst).Nodup := by
  have apart {α β : Type} {step step' : Nat → Step} {element : α → Element ι ρ}
      {element' : β → Element ι ρ} {items : List α} {items' : List β} (differ : ∀ i j, step i ≠ step' j) :
      ((numberedParts step element items).map Prod.fst).Disjoint
        ((numberedParts step' element' items').map Prod.fst) := by
    rw [numberedParts_map_fst, numberedParts_map_fst]
    intro x there there'
    obtain ⟨i, _, rfl⟩ := List.mem_map.1 there
    obtain ⟨j, _, same⟩ := List.mem_map.1 there'
    exact differ i j same.symm
  cases e with
  | package p =>
    rw [steps, List.map_append, List.nodup_append']
    refine ⟨nodup_numberedParts ?_, nodup_numberedParts ?_, apart (by simp)⟩
    · intro i j same
      exact Step.package.inj same
    · intro i j same
      exact Step.type.inj same
  | classifier t =>
    rw [steps, List.map_append, List.map_append, List.nodup_append', List.nodup_append',
      List.disjoint_append_left]
    refine ⟨⟨nodup_numberedParts ?_, nodup_numberedParts ?_, apart (by simp)⟩, nodup_numberedParts ?_,
      apart (by simp), apart (by simp)⟩
    · intro i j same
      exact Step.property.inj same
    · intro i j same
      exact Step.operation.inj same
    · intro i j same
      exact Step.associationEnd.inj same
  | operation o =>
    refine nodup_numberedParts fun i j same => ?_
    exact Step.parameter.inj same
  | property p => exact List.nodup_nil
  | parameter r => exact List.nodup_nil

/-- A step leads to one part only. -/
theorem step_inj {e c c' : Element ι ρ} {step : Step} (there : (step, c) ∈ e.steps)
    (there' : (step, c') ∈ e.steps) : c = c' :=
  congrArg Prod.snd (List.inj_on_of_nodup_map e.nodup_steps there there' rfl)

/-! ## Induction -/

section Induction

variable {P : Element ι ρ → Prop}

/-- What holds of types, and of elements if it holds of their parts, holds of packages. -/
theorem packages_induction (step : ∀ e, (∀ c ∈ e.parts, P c) → P e)
    (types : ∀ t, P (.classifier t)) : (ps : List (Package ι ρ)) → ∀ p ∈ ps, P (.package p)
  | [] => fun _ there => absurd there List.not_mem_nil
  | ⟨place, name, packages, held⟩ :: rest => by
    refine List.forall_mem_cons.2 ⟨step _ fun c among => ?_, packages_induction step types rest⟩
    rw [parts_package] at among
    rcases List.mem_append.1 among with inside | inside
    · obtain ⟨q, there, rfl⟩ := List.mem_map.1 inside
      exact packages_induction step types packages q there
    · obtain ⟨t, _, rfl⟩ := List.mem_map.1 inside
      exact types t

/-- What holds of an element whenever it holds of its parts holds of every element. -/
theorem induction (step : ∀ e, (∀ c ∈ e.parts, P c) → P e) (e : Element ι ρ) : P e := by
  have property (p : Property ι ρ) : P (.property p) := step _ (by simp)
  have parameter (r : Parameter ι ρ) : P (.parameter r) := step _ (by simp)
  have operation (o : Operation ι ρ) : P (.operation o) := by
    refine step _ fun c among => ?_
    obtain ⟨r, _, rfl⟩ := List.mem_map.1 (parts_operation o ▸ among)
    exact parameter r
  have classifier (t : Classifier ι ρ) : P (.classifier t) := by
    refine step _ fun c among => ?_
    simp only [parts_classifier, List.mem_append, List.mem_map] at among
    rcases among with (⟨p, _, rfl⟩ | ⟨o, _, rfl⟩) | ⟨p, _, rfl⟩
    · exact property p
    · exact operation o
    · exact property p
  cases e with
  | package p => exact packages_induction step classifier [p] p (List.mem_singleton.2 rfl)
  | classifier t => exact classifier t
  | property p => exact property p
  | operation o => exact operation o
  | parameter r => exact parameter r

end Induction

/-! ## All that an element holds -/

/-- The elements of packages are all that is in each of them. -/
theorem allElements_eq (ps : List (Package ι ρ)) : allElements ps = (ps.map package).flatMap all := by
  induction ps with
  | nil => rfl
  | cons p rest ih => rw [allElements, ih, List.map_cons, List.flatMap_cons, all]

/-- All that an element holds: the element itself, and all that its parts hold. -/
theorem all_eq (e : Element ι ρ) : e.all = e :: e.parts.flatMap all := by
  have single {α : Type} (element : α → Element ι ρ) (alone : ∀ x, (element x).all = [element x])
      (items : List α) : (items.map element).flatMap all = items.map element := by
    induction items with
    | nil => rfl
    | cons x rest ih => rw [List.map_cons, List.flatMap_cons, ih, alone, List.singleton_append]
  cases e with
  | package p =>
    obtain ⟨place, name, packages, types⟩ := p
    rw [all, Package.elements, allElements_eq, parts_package, List.flatMap_append,
      List.flatMap_map (f := classifier)]
    rfl
  | classifier t =>
    rw [all, Classifier.elements, parts_classifier, List.flatMap_append, List.flatMap_append,
      single property (fun _ => rfl), single property (fun _ => rfl), List.flatMap_map (f := operation)]
    rfl
  | operation o =>
    rw [all, Operation.elements, parts_operation, single parameter fun _ => rfl]
  | property p => rfl
  | parameter r => rfl

/-- What is in an element is the element itself or in one of its parts. -/
theorem mem_all {e x : Element ι ρ} : x ∈ e.all ↔ x = e ∨ ∃ c ∈ e.parts, x ∈ c.all := by
  rw [all_eq, List.mem_cons, List.mem_flatMap]

/-- An element is in itself. -/
theorem self_mem_all (e : Element ι ρ) : e ∈ e.all := mem_all.2 (.inl rfl)

/-- An element holds all that its parts hold. -/
theorem mem_all_trans {e c x : Element ι ρ} (there : x ∈ c.all) (among : c ∈ e.all) : x ∈ e.all := by
  induction e using induction with
  | step e ih =>
    rcases mem_all.1 among with rfl | ⟨c', part, among⟩
    · exact there
    · exact mem_all.2 (.inr ⟨c', part, ih c' part among⟩)

end Element

/-- The elements of a model are all that is in its packages. -/
theorem Model.elements_eq (m : Model ι ρ) : m.elements = (m.packages.map .package).flatMap Element.all :=
  Element.allElements_eq m.packages

/-! ## Other places and references -/

/-- Packages are moved one by one. -/
theorem mapPackages_eq (f : ι → κ) (g : ι → RefField → Nat → ρ → σ) (ps : List (Package ι ρ)) :
    mapPackages f g ps = ps.map (·.map f g) := by
  induction ps with
  | nil => rfl
  | cons p rest ih => rw [mapPackages, ih, List.map_cons]

namespace Element

variable (f : ι → κ) (g : ι → RefField → Nat → ρ → σ)

/-- An element that is moved is at its new place. -/
@[simp] theorem place_map (e : Element ι ρ) : (e.map f g).place = f e.place := by
  cases e with
  | package p =>
    obtain ⟨_, _, _, _⟩ := p
    rfl
  | classifier t => rfl
  | property p => rfl
  | operation o => rfl
  | parameter r => rfl

/-- An element that is moved keeps its name. -/
@[simp] theorem name_map (e : Element ι ρ) : (e.map f g).name = e.name := by
  cases e with
  | package p =>
    obtain ⟨_, _, _, _⟩ := p
    rfl
  | classifier t => rfl
  | property p => rfl
  | operation o => rfl
  | parameter r => rfl

/-- The steps of an element that is moved lead to its parts, moved. -/
theorem steps_map (e : Element ι ρ) :
    (e.map f g).steps = e.steps.map fun part => (part.1, part.2.map f g) := by
  have parts {α β : Type} (h : α → β) (step : Nat → Step) (element : α → Element ι ρ)
      (element' : β → Element κ σ) (same : ∀ x, element' (h x) = (element x).map f g) (items : List α) :
      numberedParts step element' (items.map h) =
        (numberedParts step element items).map fun part => (part.1, part.2.map f g) := by
    rw [map_numberedParts, numberedParts, numberedParts, List.map_map]
    simp [Function.comp_def, same]
  cases e with
  | package p =>
    obtain ⟨place, name, packages, types⟩ := p
    rw [map, Package.map, steps, steps, List.map_append, mapPackages_eq,
      parts (·.map f g) .package package package fun _ => rfl,
      parts (·.map f g) .type classifier classifier fun _ => rfl]
  | classifier t =>
    obtain ⟨place, name, body⟩ := t
    have properties : ((Classifier.mk place name body).map f g).properties =
        (Classifier.mk place name body).properties.map (·.map f g) := by cases body <;> rfl
    have operations : ((Classifier.mk place name body).map f g).operations =
        (Classifier.mk place name body).operations.map (·.map f g) := by cases body <;> rfl
    have ends : ((Classifier.mk place name body).map f g).ends =
        (Classifier.mk place name body).ends.map (·.map f g) := by cases body <;> rfl
    rw [map, steps, steps, List.map_append, List.map_append, properties, operations, ends,
      parts (·.map f g) .property property property fun _ => rfl,
      parts (·.map f g) .operation operation operation fun _ => rfl,
      parts (·.map f g) .associationEnd property property fun _ => rfl]
  | operation o => exact parts (·.map f g) .parameter parameter parameter (fun _ => rfl) o.parameters
  | property p => rfl
  | parameter r => rfl

/-- The parts of an element that is moved are its parts, moved. -/
theorem parts_map (e : Element ι ρ) : (e.map f g).parts = e.parts.map (·.map f g) := by
  rw [parts, parts, steps_map, List.map_map, List.map_map]
  rfl

/-- What is in an element that is moved is what was in it, moved. -/
theorem all_map (e : Element ι ρ) : (e.map f g).all = e.all.map (·.map f g) := by
  induction e using induction with
  | step e ih =>
    rw [all_eq, all_eq e, List.map_cons, parts_map, List.flatMap_map, List.map_flatMap]
    congr 1
    exact List.flatMap_congr ih

/-- The references of an element are replaced one by one. -/
theorem references_map (e : Element ι ρ) :
    (e.map f g).references = e.references.map fun (field, i, r) => (field, i, g e.place field i r) := by
  have typed (place : ι) (type : Option ρ) : typeReference (type.map (g place .type 0)) =
      (typeReference type).map fun (field, i, r) => (field, i, g place field i r) := by
    cases type <;> rfl
  have listed (place : ι) (field : RefField) (references : List ρ) :
      numbered field (references.mapIdx (g place field)) =
        (numbered field references).map fun (field, i, r) => (field, i, g place field i r) := by
    refine List.ext_getElem? fun n => ?_
    simp [numbered, Function.comp_def]
  cases e with
  | package p => rfl
  | classifier t =>
    obtain ⟨place, name, body⟩ := t
    cases body with
    | classBody c =>
      simp only [references, map, Classifier.map, Classifier.superReferences, Body.map, List.map_append,
        listed]
      rfl
    | interface c => exact listed place .superInterfaces c.superInterfaces
    | datatype properties => rfl
    | primitive => rfl
    | enumeration literals => rfl
    | association ends => rfl
  | property p => exact typed p.place p.type
  | operation o => exact typed o.place o.type
  | parameter r => exact typed r.place r.type

end Element

/-- The elements of a model that is moved are its elements, moved. -/
theorem Model.elements_map (f : ι → κ) (g : ι → RefField → Nat → ρ → σ) (m : Model ι ρ) :
    (m.map f g).elements = m.elements.map (·.map f g) := by
  rw [elements_eq, elements_eq, map, mapPackages_eq, List.map_map, List.flatMap_map, List.flatMap_map,
    List.map_flatMap]
  exact List.flatMap_congr fun p _ => Element.all_map f g (.package p)

/-- What holds of the references of all elements, by the references that they replace. -/
theorem Model.forall_references_map {f : ι → κ} {g : ι → RefField → Nat → ρ → σ} {m : Model ι ρ}
    {P : Element κ σ → RefField × Nat × σ → Prop} :
    (∀ e ∈ (m.map f g).elements, ∀ r ∈ e.references, P e r) ↔
      ∀ e ∈ m.elements, ∀ r ∈ e.references, P (e.map f g) (r.1, r.2.1, g e.place r.1 r.2.1 r.2.2) := by
  rw [elements_map, List.forall_mem_map]
  refine forall₂_congr fun e _ => ?_
  rw [Element.references_map, List.forall_mem_map]

/-! ## Replacing twice -/

section Composition

variable (f : ι → κ) (g : ι → RefField → Nat → ρ → σ) (f' : κ → μ) (g' : κ → RefField → Nat → σ → τ)

/-- A property that is moved twice is moved at once. -/
theorem Property.map_map (p : Property ι ρ) : (p.map f g).map f' g' =
    p.map (f' ∘ f) fun h field i r => g' (f h) field i (g h field i r) := by
  obtain ⟨_, _, type, _, _, _, _, _⟩ := p
  cases type <;> rfl

/-- An operation that is moved twice is moved at once. -/
theorem Operation.map_map (o : Operation ι ρ) : (o.map f g).map f' g' =
    o.map (f' ∘ f) fun h field i r => g' (f h) field i (g h field i r) := by
  have parameters : ∀ rs : List (Parameter ι ρ), (rs.map (·.map f g)).map (·.map f' g') =
      rs.map (·.map (f' ∘ f) fun h field i r => g' (f h) field i (g h field i r)) := fun rs => by
    rw [List.map_map]
    refine List.map_congr_left fun r _ => ?_
    obtain ⟨_, _, type, _⟩ := r
    cases type <;> rfl
  obtain ⟨_, _, type, _, _, rs, _, _, _, _, _⟩ := o
  rw [Operation.map, Operation.map, Operation.map, parameters, Option.map_map]
  rfl

/-- A type that is moved twice is moved at once. -/
theorem Classifier.map_map (t : Classifier ι ρ) : (t.map f g).map f' g' =
    t.map (f' ∘ f) fun h field i r => g' (f h) field i (g h field i r) := by
  have properties : ∀ ps : List (Property ι ρ), (ps.map (·.map f g)).map (·.map f' g') =
      ps.map (·.map (f' ∘ f) fun h field i r => g' (f h) field i (g h field i r)) := fun ps => by
    rw [List.map_map]
    exact List.map_congr_left fun p _ => p.map_map f g f' g'
  have operations : ∀ os : List (Operation ι ρ), (os.map (·.map f g)).map (·.map f' g') =
      os.map (·.map (f' ∘ f) fun h field i r => g' (f h) field i (g h field i r)) := fun os => by
    rw [List.map_map]
    exact List.map_congr_left fun o _ => o.map_map f g f' g'
  obtain ⟨place, name, body⟩ := t
  rw [Classifier.map, Classifier.map, Classifier.map]
  congr 1
  cases body with
  | classBody c =>
    rw [Body.map, Body.map, Body.map, properties, operations, List.mapIdx_mapIdx, List.mapIdx_mapIdx]
    rfl
  | interface c =>
    rw [Body.map, Body.map, Body.map, properties, operations, List.mapIdx_mapIdx]
    rfl
  | datatype ps => rw [Body.map, Body.map, Body.map, properties]
  | primitive => rfl
  | enumeration literals => rfl
  | association ends => rw [Body.map, Body.map, Body.map, properties]

/-- Packages that are moved twice are moved at once. -/
theorem mapPackages_mapPackages : (ps : List (Package ι ρ)) → mapPackages f' g' (mapPackages f g ps) =
    mapPackages (f' ∘ f) (fun h field i r => g' (f h) field i (g h field i r)) ps
  | [] => rfl
  | ⟨place, name, packages, types⟩ :: rest => by
    rw [mapPackages, mapPackages, mapPackages, Package.map, Package.map, Package.map,
      mapPackages_mapPackages packages, mapPackages_mapPackages rest, List.map_map]
    congr 2
    exact List.map_congr_left fun t _ => t.map_map f g f' g'

/-- Replacing places and references twice is replacing them once. -/
theorem Model.map_map (m : Model ι ρ) : (m.map f g).map f' g' =
    m.map (f' ∘ f) fun h field i r => g' (f h) field i (g h field i r) :=
  congrArg Model.mk (mapPackages_mapPackages f g f' g' m.packages)

end Composition
/-! ## Positions -/

/-- The element at a position of a model, with the elements around it, the nearest first. -/
inductive Model.At (m : Model ι ρ) : Path → Element ι ρ → List (Element ι ρ) → Prop where
  | top {i : Nat} {p : Package ι ρ} (there : m.packages[i]? = some p) : At m [.package i] (.package p) []
  | part {path : Path} {e c : Element ι ρ} {around : List (Element ι ρ)} {step : Step}
    (outer : At m path e around) (there : (step, c) ∈ e.steps) : At m (path ++ [step]) c (e :: around)

namespace Model

variable {m : Model ι ρ} {path : Path} {e : Element ι ρ} {around : List (Element ι ρ)}

/-- The path to an element has a step. -/
theorem At.path_ne_nil (there : m.At path e around) : path ≠ [] := by
  cases there with
  | top _ => simp
  | part _ _ => simp

/-- A package of a model is on a path. -/
theorem At.of_mem_packages {p : Package ι ρ} (there : p ∈ m.packages) :
    ∃ path, m.At path (.package p) [] := by
  obtain ⟨i, found⟩ := List.mem_iff_getElem?.1 there
  exact ⟨_, .top found⟩

/-- A part of an element is one step further. -/
theorem At.of_mem_parts {c : Element ι ρ} (there : m.At path e around) (part : c ∈ e.parts) :
    ∃ step, m.At (path ++ [step]) c (e :: around) := by
  obtain ⟨⟨step, c⟩, leads, rfl⟩ := List.mem_map.1 part
  exact ⟨step, .part there leads⟩

/-- What an element holds is at a position behind that of the element. -/
theorem At.of_mem_all {x : Element ι ρ} (there : m.At path e around) (among : x ∈ e.all) :
    ∃ path' around', m.At path' x around' := by
  induction e using Element.induction generalizing path around with
  | step e ih =>
    rcases Element.mem_all.1 among with rfl | ⟨c, part, among⟩
    · exact ⟨path, around, there⟩
    · obtain ⟨step, here⟩ := there.of_mem_parts part
      exact ih c part here among

/-- What is on a path, and what is around it, are elements of the model. -/
theorem At.mem_elements (there : m.At path e around) :
    e ∈ m.elements ∧ ∀ a ∈ around, a ∈ m.elements := by
  rw [elements_eq]
  induction there with
  | top there =>
    refine ⟨List.mem_flatMap.2 ⟨_, List.mem_map_of_mem (List.mem_of_getElem? there), ?_⟩, by simp⟩
    exact Element.self_mem_all _
  | part outer leads ih =>
    obtain ⟨root, among, inside⟩ := List.mem_flatMap.1 ih.1
    refine ⟨List.mem_flatMap.2 ⟨root, among, Element.mem_all_trans ?_ inside⟩,
      List.forall_mem_cons.2 ih⟩
    exact Element.mem_all.2 (.inr ⟨_, List.mem_map_of_mem leads, Element.self_mem_all _⟩)

/-- The elements of a model are those at its positions. -/
theorem mem_elements_iff : e ∈ m.elements ↔ ∃ path around, m.At path e around := by
  constructor
  · intro there
    rw [elements_eq] at there
    obtain ⟨root, among, inside⟩ := List.mem_flatMap.1 there
    obtain ⟨p, there, rfl⟩ := List.mem_map.1 among
    obtain ⟨i, here⟩ := At.of_mem_packages there
    exact here.of_mem_all inside
  · rintro ⟨path, around, there⟩
    exact there.mem_elements.1

/-- The parts of the elements of a model are elements of the model. -/
theorem mem_elements_of_mem_parts {c : Element ι ρ} (there : e ∈ m.elements) (part : c ∈ e.parts) :
    c ∈ m.elements := by
  obtain ⟨path, around, here⟩ := mem_elements_iff.1 there
  obtain ⟨step, held⟩ := here.of_mem_parts part
  exact held.mem_elements.1

/-- A position has one element, with what is around it. -/
theorem At.unique {e' : Element ι ρ} {around' : List (Element ι ρ)} (there : m.At path e around)
    (there' : m.At path e' around') : e = e' ∧ around = around' := by
  induction there generalizing e' around' with
  | top found =>
    generalize same : [Step.package _] = path at there'
    cases there' with
    | top found' =>
      obtain ⟨rfl⟩ : _ = _ := by simpa using same
      obtain rfl := Option.some.inj (found.symm.trans found')
      exact ⟨rfl, rfl⟩
    | part outer _ => exact absurd (List.append_eq_singleton_iff.1 same.symm) (by simp [outer.path_ne_nil])
  | part outer leads ih =>
    generalize same : _ ++ [_] = path at there'
    cases there' with
    | top _ => exact absurd (List.append_eq_singleton_iff.1 same) (by simp [outer.path_ne_nil])
    | part outer' leads' =>
      obtain ⟨rfl, last⟩ := List.append_inj' same rfl
      obtain rfl := List.singleton_inj.1 last
      obtain ⟨rfl, rfl⟩ := ih outer'
      exact ⟨Element.step_inj leads leads', rfl⟩

/-- An element that is moved is on the same path. -/
theorem At.map (f : ι → κ) (g : ι → RefField → Nat → ρ → σ) (there : m.At path e around) :
    (m.map f g).At path (e.map f g) (around.map (·.map f g)) := by
  induction there with
  | top there =>
    refine .top ?_
    rw [Model.map, mapPackages_eq, List.getElem?_map, there]
    rfl
  | part outer leads ih =>
    refine .part ih ?_
    rw [Element.steps_map]
    exact List.mem_map.2 ⟨_, leads, rfl⟩

/-- The elements of a model with other places and references are those of the model. -/
theorem At.of_map {f : ι → κ} {g : ι → RefField → Nat → ρ → σ} {e : Element κ σ}
    {around : List (Element κ σ)} (there : (m.map f g).At path e around) :
    ∃ e' around', m.At path e' around' ∧ e = e'.map f g ∧ around = around'.map (·.map f g) := by
  induction there with
  | top there =>
    rw [Model.map, mapPackages_eq, List.getElem?_map] at there
    obtain ⟨p, found, rfl⟩ := Option.map_eq_some_iff.1 there
    exact ⟨_, _, .top found, rfl, rfl⟩
  | part outer leads ih =>
    obtain ⟨e', around', there, rfl, rfl⟩ := ih
    rw [Element.steps_map] at leads
    obtain ⟨part, among, same⟩ := List.mem_map.1 leads
    obtain ⟨rfl, rfl⟩ := Prod.mk.inj same
    exact ⟨part.2, _, .part there among, rfl, rfl⟩

/-- Packages after those of a model leave its elements where they are. -/
theorem At.of_append {m' : Model ι ρ} {ps : List (Package ι ρ)} (there : m.At path e around)
    (more : m'.packages = m.packages ++ ps) : m'.At path e around := by
  induction there with
  | top there =>
    refine .top ?_
    rw [more, List.getElem?_append_left (List.getElem?_eq_some_iff.1 there).1]
    exact there
  | part _ leads ih => exact .part ih leads

/-- There are more elements in a model than there are around one of them. -/
theorem At.length_lt (there : m.At path e around) : around.length < m.elements.length := by
  have shorter {e : Element ι ρ} {es : List (Element ι ρ)} (among : e ∈ es) :
      e.all.length ≤ (es.flatMap Element.all).length := by
    rw [List.flatMap_def]
    exact (List.sublist_flatten_of_mem (List.mem_map_of_mem among)).length_le
  -- What is around an element comes before it and before all that it holds.
  have room : e.all.length + around.length ≤ m.elements.length := by
    rw [elements_eq]
    induction there with
    | top there => exact shorter (List.mem_map_of_mem (List.mem_of_getElem? there))
    | @part _ outer c _ _ _ leads ih =>
      have inside : c.all.length ≤ (outer.parts.flatMap Element.all).length :=
        shorter (List.mem_map_of_mem leads)
      rw [Element.all_eq, List.length_cons] at ih
      rw [List.length_cons]
      omega
  rw [Element.all_eq, List.length_cons] at room
  omega

end Model

end ClassDiagram
