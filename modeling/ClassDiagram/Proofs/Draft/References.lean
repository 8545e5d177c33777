import ClassDiagram.Proofs.Draft.Answers
import ClassDiagram.Proofs.Draft.Plain
import ClassDiagram.Proofs.Model.Contributions
import ClassDiagram.Proofs.Model.References

/-!
# Warnings about references

The check of a draft warns of each declared reference that leads to no element, once and at the element that declares
it (`IsTyped.unresolvedReferences_view`).  These warnings come last, and nothing else that the check finds is one of
them (`Validation.isStructural_of_mem`).  So what is found with them begins with all that is found without them
(`reference_warnings_are_exact`).
-/

set_option autoImplicit false

namespace ClassDiagram

/-! ## Findings about references -/

namespace Diagnostic

/-- Whether a diagnostic says that a reference has no target. -/
def isOnReference (w : Diagnostic) : Bool :=
  match w.finding with
  | .unresolvedReference _ => true
  | _ => false

/-- Whether a diagnostic says this at the element, the field and the position of a spot. -/
def isOnSpot (w : Diagnostic) (spot : Path × RefField × Nat) : Bool :=
  w.isOnReference && w.target == .inside spot.1 && w.field == spot.2.1.word && w.index == some spot.2.2

end Diagnostic

/-- A warning about the structure of a model is not about a reference. -/
theorem Validation.isOnReference_of_isStructural {w : Diagnostic} (structural : IsStructural w) :
    w.isOnReference = false := by
  obtain ⟨finding, target, name, field, index⟩ := w
  cases finding with
  | unresolvedReference own => exact structural.elim
  | _ => rfl

namespace Draft

variable {d : Draft} {x : Declaration Handle Pointer}

/-! ## Targets -/

/-- Whether a reference of a draft leads to an element of it, in the tree or aside. -/
def HasTarget (d : Draft) (x : Declaration Handle Pointer) : Prop :=
  ∃ e ∈ d.elements, d.targetOf x.element.place.origin x.field x.reference = some (.element e.place.origin)

instance (d : Draft) : DecidablePred d.HasTarget := fun _ => inferInstanceAs (Decidable (∃ e ∈ d.elements, _))

/-- A reference of a model is one of an element of it. -/
theorem mem_references_of_isOf (known : x.IsOf d.model) :
    x.element ∈ d.model.elements ∧ (x.field, x.index, x.reference) ∈ x.element.references := by
  obtain ⟨⟨around, there⟩, declared⟩ := known
  exact ⟨there.mem_elements.1, Element.mem_references_iff.2 declared⟩

/-- There is no element with an origin exactly if none of the elements has it. -/
theorem element?_eq_none_iff {origin : Origin} :
    d.element? origin = none ↔ ∀ e ∈ d.elements, e.place.origin ≠ origin := by
  simp [element?, elementAmong]

/-- A reference has a link with a target exactly if it leads to an element. -/
theorem IsTyped.target_linkOf_eq_none_iff (typed : d.IsTyped) (known : x.IsOf d.model) :
    (d.linkOf d.positions x.element.place x.field x.index x.reference).target = none ↔ ¬ d.HasTarget x := by
  obtain ⟨there, among⟩ := mem_references_of_isOf known
  have inside := typed.targetOf_ne_model (mem_elements_of_tree there) among
  unfold HasTarget linkOf
  cases leads : d.targetOf x.element.place.origin x.field x.reference with
  | none => simp
  | some holder =>
    cases holder with
    | model => exact absurd leads inside
    | element origin =>
      simp only [Option.bind_some, targetAt, Option.map_eq_none_iff, element?_eq_none_iff, Option.some.injEq,
        Holder.element.injEq, not_exists, not_and]
      constructor
      · intro none e held same
        exact none e held same.symm
      · intro none e held same
        exact none e held same.symm

/-- A reference that is made by its name has a target exactly if the name leads to a type. -/
theorem IsCurrent.hasTarget_iff (current : d.IsCurrent) (known : x.IsOf d.model)
    (named : ∀ target, x.reference.aim ≠ .given target) {name : String} (text : x.reference.name = .text name) :
    d.HasTarget x ↔ ∃ entry, (d.find (.element x.element.place.origin) x.field.kinds name).1 = some entry := by
  obtain ⟨there, among⟩ := mem_references_of_isOf known
  have leads : d.targetOf x.element.place.origin x.field x.reference =
      (d.lookUp (.element x.element.place.origin) x.field.kinds name).map fun entry => .element entry.origin := by
    rw [current.targetOf_eq there among]
    dsimp only
    rw [text, lookUpGiven, Pointer.answer]
    split
    · next target aim => exact absurd aim (named target)
    · rw [Option.map_map]
      rfl
  unfold HasTarget
  rw [leads]
  change _ ↔ ∃ entry, d.lookUp (.element x.element.place.origin) x.field.kinds name = some entry
  constructor
  · rintro ⟨e, _, found⟩
    obtain ⟨entry, found, _⟩ := Option.map_eq_some_iff.1 found
    exact ⟨entry, found⟩
  · rintro ⟨entry, found⟩
    obtain ⟨t, inTree, rfl⟩ := current.exists_type_of_lookUp there found
    refine ⟨.classifier t, mem_elements_of_tree (Model.mem_types_iff.1 inTree), ?_⟩
    rw [found]
    rfl

/-! ## Warnings -/

/-- The warning that a reference has no target. -/
def warning (x : Declaration Handle Pointer) : Diagnostic :=
  ⟨.unresolvedReference x.reference.label, .inside x.path, x.element.name, x.field.word, some x.index⟩

/-- The warning that a reference has no target, where it has none. -/
def warnings (d : Draft) (x : Declaration Handle Pointer) : List Diagnostic :=
  if d.HasTarget x then [] else [warning x]

/-- The warning for a reference is there exactly if the reference has no target. -/
theorem mem_warnings_iff {w : Diagnostic} : w ∈ d.warnings x ↔ ¬ d.HasTarget x ∧ w = warning x := by
  unfold warnings
  split <;> simp_all

/-- The warning for a reference is on the spot of that reference. -/
theorem isOnSpot_warning_iff {spot : Path × RefField × Nat} : (warning x).isOnSpot spot = true ↔ x.spot = spot := by
  obtain ⟨path, field, i⟩ := spot
  have words : x.field.word = field.word ↔ x.field = field := by
    cases x.field <;> cases field <;> decide
  simp [warning, Diagnostic.isOnSpot, Diagnostic.isOnReference, Declaration.spot, words, and_assoc]

/-- The check of references gives the warnings of the declared references, one after another. -/
theorem IsTyped.unresolvedReferences_view (typed : d.IsTyped) (sound : d.IsSound) :
    Validation.unresolvedReferences d.view = d.model.declarations.flatMap d.warnings := by
  have elements : d.view.model.elements =
      d.model.elements.map fun e => e.map (d.placeOf d.positions) (d.linkOf d.positions) :=
    Model.elements_map _ _ d.model
  rw [Validation.unresolvedReferences, elements, ← Model.walk_map_snd, List.flatMap_map, List.flatMap_map,
    Model.declarations, List.flatMap_assoc]
  apply List.flatMap_congr
  rintro ⟨path, e⟩ visited
  obtain ⟨around, there⟩ := Model.mem_walk_iff.1 visited
  dsimp only
  rw [Validation.elementReferences, Element.references_map, List.filterMap_map, List.filterMap_eq_flatMap_toList,
    List.flatMap_map]
  apply List.flatMap_congr
  rintro ⟨field, i, r⟩ among
  have known : (Declaration.mk path e field i r).IsOf d.model := ⟨⟨around, there⟩, Element.mem_references_iff.1 among⟩
  have unresolved := typed.target_linkOf_eq_none_iff known
  have key : (e.map (d.placeOf d.positions) (d.linkOf d.positions)).place.key = .inside path := by
    rw [Element.place_map]
    exact sound.key_eq there
  have named : (e.map (d.placeOf d.positions) (d.linkOf d.positions)).name = e.name := Element.name_map _ _ e
  dsimp only [Function.comp_apply] at unresolved ⊢
  rw [key, named, warnings]
  by_cases found : d.HasTarget ⟨path, e, field, i, r⟩
  · rw [if_pos found, if_neg fun none => unresolved.1 (Option.isNone_iff_eq_none.1 none) found]
    rfl
  · rw [if_neg found, if_pos (Option.isNone_iff_eq_none.2 (unresolved.2 found))]
    rfl

/-- Of the warnings of all references, those at the spot of one are the warning of this one. -/
theorem filter_warnings (known : x ∈ d.model.declarations) :
    (d.model.declarations.flatMap d.warnings).filter (·.isOnSpot x.spot) = d.warnings x := by
  rw [List.filter_flatMap, flatMap_eq_of_unique d.model.nodup_spots.of_map known]
  · rw [List.filter_eq_self]
    intro w own
    obtain ⟨_, rfl⟩ := mem_warnings_iff.1 own
    exact isOnSpot_warning_iff.2 rfl
  · intro y known' other
    rw [List.filter_eq_nil_iff]
    intro w own here
    obtain ⟨_, rfl⟩ := mem_warnings_iff.1 own
    exact other (Model.mem_declarations_inj known' known (isOnSpot_warning_iff.1 here))

/-- Whether of two lists of diagnostics the second one is the first one with, after it, the warnings about the
references of a draft without a target: one for each of them, at the element that declares it with the field and the
position there, and none for another reference. -/
structure WarnsOnReferences (d : Draft) (off on : List Diagnostic) : Prop where
  last : ∃ warnings, on = off ++ warnings ∧ (∀ w ∈ off, w.isOnReference = false) ∧
    ∀ w ∈ warnings, w.isOnReference = true
  unresolved : ∀ x : Declaration Handle Pointer, x.IsOf d.model → ¬ d.HasTarget x →
    on.filter (·.isOnSpot x.spot) = [warning x]
  resolved : ∀ x : Declaration Handle Pointer, x.IsOf d.model → d.HasTarget x →
    on.filter (·.isOnSpot x.spot) = []
  only : ∀ w ∈ on, w.isOnReference = true →
    ∃ x : Declaration Handle Pointer, x.IsOf d.model ∧ ¬ d.HasTarget x ∧ w = warning x

/-- The diagnostics of a typed and sound draft warn on its references. -/
theorem IsTyped.warnsOnReferences (typed : d.IsTyped) (sound : d.IsSound) :
    d.WarnsOnReferences (d.view.diagnostics false) (d.view.diagnostics true) := by
  have off : d.view.diagnostics false = Validation.structureFindings d.view := List.append_nil _
  have on : d.view.diagnostics true =
      Validation.structureFindings d.view ++ d.model.declarations.flatMap d.warnings := by
    rw [← typed.unresolvedReferences_view sound]
    rfl
  have spared : ∀ w ∈ Validation.structureFindings d.view, w.isOnReference = false := by
    intro w found
    exact Validation.isOnReference_of_isStructural (Validation.isStructural_of_mem found)
  have owned {w : Diagnostic} (among : w ∈ d.model.declarations.flatMap d.warnings) :
      ∃ x ∈ d.model.declarations, ¬ d.HasTarget x ∧ w = warning x := by
    obtain ⟨x, known, own⟩ := List.mem_flatMap.1 among
    exact ⟨x, known, mem_warnings_iff.1 own⟩
  have filtered {x : Declaration Handle Pointer} (known : x.IsOf d.model) :
      (d.view.diagnostics true).filter (·.isOnSpot x.spot) = d.warnings x := by
    have nothing : (Validation.structureFindings d.view).filter (·.isOnSpot x.spot) = [] := by
      rw [List.filter_eq_nil_iff]
      intro w found here
      simp [Diagnostic.isOnSpot, spared w found] at here
    rw [on, List.filter_append, nothing, filter_warnings (Model.mem_declarations_iff.2 known), List.nil_append]
  constructor
  · refine ⟨_, by rw [on, off], ?_, ?_⟩
    · rw [off]
      exact spared
    · intro w among
      obtain ⟨x, _, _, rfl⟩ := owned among
      rfl
  · intro x known none
    rw [filtered known, warnings, if_neg none]
  · intro x known found
    rw [filtered known, warnings, if_pos found]
  · intro w found warns
    rw [on, List.mem_append] at found
    rcases found with structural | among
    · simp [spared w structural] at warns
    · obtain ⟨x, known, none, rfl⟩ := owned among
      exact ⟨x, Model.mem_declarations_iff.1 known, none, rfl⟩

end Draft

/-- Whether the elements of a model are visited each at its position and once, no element after one that it contains,
and the types among them are those of the model, in another order. -/
structure Model.IsVisited {ι ρ : Type} (m : Model ι ρ) : Prop where
  elements : m.walk.map Prod.snd = m.elements
  complete : ∀ path e, (path, e) ∈ m.walk ↔ ∃ around, m.At path e around
  once : (m.walk.map Prod.fst).Nodup
  ordered : m.walk.Pairwise fun a b => ¬ b.1 <+: a.1
  types : (m.elements.filterMap Draft.asType).Perm m.types

/-- A walk over a model visits each element once, after what is around it. -/
theorem Model.isVisited {ι ρ : Type} (m : Model ι ρ) : m.IsVisited where
  elements := m.walk_map_snd
  complete _ _ := mem_walk_iff
  once := m.nodup_walk
  ordered := m.ordered_walk
  types := m.perm_types

namespace Draft

/-- The check of a linked draft in which everything is of its kind warns of the declared references without a target and
of no others, once each and after all else that it finds; without these warnings it finds what comes before them.  A
reference that is made by a name has no target exactly if its name leads to no type.  The elements are visited each one
time, containers before their contents. -/
theorem reference_warnings_are_exact {d : Draft} (linked : d.IsLinked) (typed : d.IsTyped) :
    (∃ off on, (d.diagnostics false).1 = .ok off ∧ (d.diagnostics true).1 = .ok on ∧ d.WarnsOnReferences off on) ∧
    (∀ x : Declaration Handle Pointer, x.IsOf d.model → ∃ name, x.reference.name = .text name ∧
      (warning x).severity = .warning ∧ (warning x).message = s!"Could not resolve reference to '{name}'." ∧
      ((∀ target, x.reference.aim ≠ .given target) →
        (d.HasTarget x ↔ ∃ entry, (d.find (.element x.element.place.origin) x.field.kinds name).1 = some entry))) ∧
    d.model.IsVisited := by
  have current := linked.isCurrent
  refine ⟨?_, ?_, d.model.isVisited⟩
  · exact ⟨_, _, typed.diagnostics_eq false, typed.diagnostics_eq true, typed.warnsOnReferences current.sound⟩
  · intro x known
    obtain ⟨there, among⟩ := mem_references_of_isOf known
    obtain ⟨name, text⟩ := typed.named x.element (mem_elements_of_tree there) _ among
    have label : x.reference.label = name := by
      rw [Pointer.label, text]
      rfl
    refine ⟨name, text, rfl, ?_, ?_⟩
    · rw [← label]
      rfl
    · intro named
      exact current.hasTarget_iff known named text

/-- A workshop with references in all fields.  The wheel has a hub, which is known, and a rim, which is not. -/
def workshop : Declared :=
  ⟨[⟨(), "workshop",
    [⟨(), "parts", [],
      [⟨(), "Wheel", .classBody ⟨false,
        [⟨(), "hub", some "Hub", .number 1, .number 1, none, false, .plain⟩,
          ⟨(), "rim", some "Rim", .number 1, .number 1, none, false, .plain⟩],
        [⟨(), "turn", some "Angle", .number 1, .number 1,
          [⟨(), "speed", some "Speed", .number 1⟩, ⟨(), "hub", some "Hub", .number 1⟩], none, false, false, .null,
          .null⟩],
        ["Hub", "Round"], ["Turns"]⟩⟩]⟩],
    [⟨(), "Hub", .classBody ⟨false, [], [], [], []⟩⟩,
      ⟨(), "turns", .interface ⟨[], [], ["Moves"]⟩⟩,
      ⟨(), "mounts", .association
        [⟨(), "wheel", some "Wheel", .number 0, .number 1, none, false, .plain⟩,
          ⟨(), "frame", some "Frame", .number 0, .number 1, none, false, .plain⟩]⟩]⟩]⟩

/-- The check of the workshop warns of seven references, after what it finds about a name, and of the second super
class of the wheel once. -/
theorem reference_warnings_are_exact_in_workshop :
    ∃ off on, ((ofDeclared workshop).diagnostics false).1 = .ok off ∧
      ((ofDeclared workshop).diagnostics true).1 = .ok on ∧
      off.map (fun w => (w.targetName, w.field)) = [("turns", "name")] ∧
      (on.filter (·.isOnReference)).map (fun w => (w.targetName, w.field, w.index)) =
        [("Wheel", "super_classes", some 1), ("Wheel", "super_interfaces", some 0), ("rim", "type", some 0),
          ("turn", "type", some 0), ("speed", "type", some 0), ("turns", "super_interfaces", some 0),
          ("frame", "type", some 0)] ∧
      ∃ x : Declaration Handle Pointer, x.IsOf (ofDeclared workshop).model ∧
        x.spot = ([.package 0, .package 0, .type 0], .superClasses, 1) ∧
        on.filter (·.isOnSpot x.spot) = [warning x] := by
  have typed := isTyped_ofDeclared workshop
  obtain ⟨⟨off, on, without, reported, warns⟩, -⟩ := reference_warnings_are_exact (.declared workshop) typed
  obtain rfl := typed.eq_of_diagnostics without
  obtain rfl := typed.eq_of_diagnostics reported
  let x := (ofDeclared workshop).model.declarations.get ⟨1, by decide +kernel⟩
  have known : x.IsOf (ofDeclared workshop).model := Model.mem_declarations_iff.1 (List.get_mem _ _)
  have none : ¬ (ofDeclared workshop).HasTarget x := by decide +kernel
  refine ⟨_, _, without, reported, by decide +kernel, by decide +kernel, x, known, by decide +kernel, ?_⟩
  exact warns.unresolved x known none

end Draft

end ClassDiagram
