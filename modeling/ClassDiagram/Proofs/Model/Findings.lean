import ClassDiagram.Proofs.Model.Cycles
import ClassDiagram.Validation
import Mathlib.Data.List.Nodup

/-!
# When there are no findings

The passes of the check, one by one: what a model is like in which a pass finds no error.  Naming
conventions and references without a target give warnings only, and only the pass over the references gives the
latter (`Validation.isStructural_of_mem`).
-/

set_option autoImplicit false

namespace ClassDiagram

open Relation

/-- Whether there is no error among findings. -/
def NoErrors (ds : List Diagnostic) : Prop := ∀ d ∈ ds, d.isError = false

section

variable {α : Type} {ds ds' : List Diagnostic} {xs : List α}

/-- There are no errors among findings in a row exactly if there are none in either part. -/
theorem noErrors_append : NoErrors (ds ++ ds') ↔ NoErrors ds ∧ NoErrors ds' := List.forall_mem_append

/-- There are no errors among findings for items exactly if there are none for any of them. -/
theorem noErrors_flatMap {f : α → List Diagnostic} :
    NoErrors (xs.flatMap f) ↔ ∀ x ∈ xs, NoErrors (f x) := by
  simp only [NoErrors, List.mem_flatMap]
  exact ⟨fun none x among d found => none d ⟨x, among, found⟩,
    fun none d ⟨x, among, found⟩ => none x among d found⟩

/-- A pass that gives errors only has no errors exactly if it finds nothing. -/
theorem noErrors_iff_eq_nil (grave : ∀ d ∈ ds, d.isError = true) : NoErrors ds ↔ ds = [] := by
  constructor
  · intro none
    refine List.eq_nil_iff_forall_not_mem.2 fun d found => ?_
    simpa [grave d found] using none d found
  · rintro rfl
    simp [NoErrors]

/-- A pass that gives an error for each item of a sort has none exactly if there are no such items. -/
theorem noErrors_filterMap (xs : List α) (p : α → Prop) [DecidablePred p] (finding : α → Diagnostic)
    (grave : ∀ x, (finding x).isError = true) :
    NoErrors (xs.filterMap fun x => if p x then some (finding x) else none) ↔ ∀ x ∈ xs, ¬ p x := by
  rw [noErrors_iff_eq_nil, List.filterMap_eq_nil_iff]
  · exact forall₂_congr fun x _ => by simp
  · intro d found
    obtain ⟨x, _, given⟩ := List.mem_filterMap.1 found
    obtain ⟨_, same⟩ := Option.ite_none_right_eq_some.1 given
    obtain rfl := Option.some.inj same
    exact grave x

/-- A finding that is no error adds none, whatever its condition. -/
theorem noErrors_if {p : Prop} [Decidable p] {d : Diagnostic} (mild : d.isError = false) :
    NoErrors (if p then [d] else []) := by
  split <;> simp [NoErrors, mild]

end

namespace Validation

variable {ρ : Type} {m : Linked}

/-! ## Findings about structure -/

/-- Whether a diagnostic is one that the passes over the structure of a model can give: not about a reference or a file,
and about the name of the element that it is at, where it is about a name that others have too. -/
def IsStructural (x : Diagnostic) : Prop :=
  match x.finding with
  | .duplicateName _ name => name = x.targetName
  | .endClashesWithProperty name => name = x.targetName
  | .duplicateEnd name _ => name = x.targetName
  | .unresolvedReference _ => False
  | .sourceFailed _ => False
  | .diagramFailed _ => False
  | _ => True

section

variable {x : Diagnostic}

/-- Findings about conventions for names are about structure. -/
theorem isStructural_naming {m : Model Place ρ} (found : x ∈ naming m) : IsStructural x := by
  simp only [naming, typeNaming, featureNaming, List.mem_append, List.mem_flatMap, List.mem_filterMap] at found
  grind [IsStructural, Diagnostic.atName]

/-- Findings about duplicates among items are about structure. -/
theorem isStructural_duplicates {label : String} {items : List (String × Key)} (found : x ∈ duplicates label items) :
    IsStructural x := by
  simp only [duplicates, List.mem_filterMap] at found
  grind [IsStructural, Diagnostic.atName]

/-- Findings about duplicate names are about structure. -/
theorem isStructural_duplicateNames {m : Model Place ρ} (found : x ∈ duplicateNames m) : IsStructural x := by
  simp only [duplicateNames, packageDuplicates, typeDuplicates, duplicateLiterals, List.mem_append, List.mem_flatMap,
    List.mem_filterMap] at found
  grind [IsStructural, isStructural_duplicates]

/-- Findings about cycles are about structure. -/
theorem isStructural_inheritanceCycles (found : x ∈ inheritanceCycles m) : IsStructural x := by
  simp only [inheritanceCycles, cyclesOf, List.mem_append, List.mem_map] at found
  grind [IsStructural]

/-- Findings about the ends of associations are about structure. -/
theorem isStructural_associationArity (found : x ∈ associationArity m) : IsStructural x := by
  simp only [associationArity, List.mem_filterMap] at found
  grind [IsStructural]

/-- Findings about abstract operations are about structure. -/
theorem isStructural_abstractOperations (found : x ∈ abstractOperations m) : IsStructural x := by
  simp only [abstractOperations, List.mem_filterMap] at found
  grind [IsStructural, Diagnostic.atName]

/-- Findings about members of associations are about structure. -/
theorem isStructural_associationMembers (found : x ∈ associationMembers m) : IsStructural x := by
  simp only [associationMembers, memberClashes, List.mem_flatMap, List.mem_filterMap] at found
  grind [IsStructural, Diagnostic.atName]

/-- What the passes before that over the references find is about the structure. -/
theorem isStructural_of_mem (found : x ∈ structureFindings m) : IsStructural x := by
  simp only [structureFindings, List.mem_append] at found
  rcases found with ((((naming | duplicate) | cycle) | arity) | concrete) | member
  · exact isStructural_naming naming
  · exact isStructural_duplicateNames duplicate
  · exact isStructural_inheritanceCycles cycle
  · exact isStructural_associationArity arity
  · exact isStructural_abstractOperations concrete
  · exact isStructural_associationMembers member

end

/-! ## Warnings -/

/-- The conventions for names of features give no errors. -/
theorem noErrors_featureNaming (e : Element Place ρ) : NoErrors (featureNaming e) := by
  cases e with
  | property p => exact noErrors_if rfl
  | operation o => exact noErrors_if rfl
  | package p => simp [NoErrors, featureNaming]
  | classifier t => simp [NoErrors, featureNaming]
  | parameter r => simp [NoErrors, featureNaming]

/-- The conventions for names in a type give no errors. -/
theorem noErrors_typeNaming (t : Classifier Place ρ) : NoErrors (typeNaming t) := by
  refine noErrors_append.2 ⟨noErrors_if rfl, fun d found => ?_⟩
  obtain ⟨_, _, given⟩ := List.mem_filterMap.1 found
  obtain ⟨_, same⟩ := Option.ite_none_right_eq_some.1 given
  obtain rfl := Option.some.inj same
  rfl

/-- The conventions for names give no errors. -/
theorem noErrors_naming (m : Model Place ρ) : NoErrors (naming m) :=
  noErrors_append.2 ⟨noErrors_flatMap.2 fun t _ => noErrors_typeNaming t,
    noErrors_flatMap.2 fun e _ => noErrors_featureNaming e⟩

/-- References without a target give no errors. -/
theorem noErrors_unresolvedReferences (m : Linked) : NoErrors (unresolvedReferences m) := by
  refine noErrors_flatMap.2 fun e _ d found => ?_
  obtain ⟨_, _, given⟩ := List.mem_filterMap.1 found
  obtain ⟨_, same⟩ := Option.ite_none_right_eq_some.1 given
  obtain rfl := Option.some.inj same
  rfl

/-! ## Names -/

/-- Names are distinct exactly if none is repeated. -/
theorem nodup_iff_not_repeated {names : List String} :
    names.Nodup ↔ ∀ name ∈ names, isRepeated names name = false := by
  rw [List.nodup_iff_count_le_one]
  constructor
  · intro once name _
    simpa [isRepeated] using once name
  · intro single name
    by_cases there : name ∈ names
    · simpa [isRepeated] using single name there
    · simp [List.count_eq_zero_of_not_mem there]

/-- Items give no duplicates exactly if their names are distinct. -/
theorem noErrors_duplicates (label : String) (items : List (String × Key)) :
    NoErrors (duplicates label items) ↔ (items.map Prod.fst).Nodup := by
  have once := noErrors_filterMap items (fun item => isRepeated (items.map Prod.fst) item.1)
    (fun item => .atName (.duplicateName label item.1) item.2 item.1) fun _ => rfl
  refine once.trans ?_
  simp only [nodup_iff_not_repeated, List.forall_mem_map, Bool.not_eq_true]

/-- A type has no duplicate literals exactly if they are distinct. -/
theorem noErrors_duplicateLiterals (t : Classifier Place ρ) :
    NoErrors (duplicateLiterals t) ↔ t.literals.Nodup := by
  have once := noErrors_filterMap t.literals.zipIdx (fun item => isRepeated t.literals item.1)
    (fun item => ⟨.duplicateLiteral item.1, t.key, t.name, "literals", some item.2⟩) fun _ => rfl
  refine once.trans ?_
  have items := List.forall_mem_map (l := t.literals.zipIdx) (f := Prod.fst)
    (P := fun literal => isRepeated t.literals literal = false)
  rw [List.zipIdx_map_fst] at items
  simp only [nodup_iff_not_repeated, items, Bool.not_eq_true]

/-- A type has no duplicates exactly if the names in each of its scopes are distinct. -/
theorem noErrors_typeDuplicates (t : Classifier Place ρ) :
    NoErrors (typeDuplicates t) ↔ (t.properties.map (·.name)).Nodup ∧ (t.operations.map (·.name)).Nodup ∧
      (t.ends.map (·.name)).Nodup ∧ t.literals.Nodup := by
  simp only [typeDuplicates, noErrors_append, noErrors_duplicates, noErrors_duplicateLiterals,
    propertyNames, operationNames, List.map_map, Function.comp_def, and_assoc]

/-- A package has no duplicates exactly if the names in each of its scopes are distinct. -/
theorem noErrors_packageDuplicates (p : Package Place ρ) :
    NoErrors (packageDuplicates p) ↔ (p.packages.map (·.name)).Nodup ∧ (p.types.map (·.name)).Nodup ∧
      ∀ t ∈ p.types, NoErrors (typeDuplicates t) := by
  simp only [packageDuplicates, noErrors_append, noErrors_duplicates, noErrors_flatMap, packageNames,
    typeNames, List.map_map, Function.comp_def, and_assoc]

/-- A model has no duplicate names exactly if the names in each scope are distinct. -/
theorem noErrors_duplicateNames (m : Model Place ρ) :
    NoErrors (duplicateNames m) ↔ (m.packages.map (·.name)).Nodup ∧
      ∀ p ∈ m.allPackages, NoErrors (packageDuplicates p) := by
  simp only [duplicateNames, noErrors_append, noErrors_duplicates, noErrors_flatMap, packageNames,
    List.map_map, Function.comp_def]

/-! ## Structure -/

/-- A search for cycles finds no errors exactly if no type is above itself. -/
theorem noErrors_cyclesOf {finding : Finding} (grave : finding.severity = .error) (kind : Kind)
    (field : RefField) :
    NoErrors (cyclesOf m (m.graph ((m.model.ofKind kind).map (·.key)) field) finding field) ↔
      ∀ t ∈ m.model.ofKind kind, ¬ TransGen (m.HasSuper field) t.key t.key := by
  have same : SuperGraph.Leads (m.edges field) = m.HasSuper field := by
    ext key super
    exact Linked.leads_edges
  rw [noErrors_iff_eq_nil, cyclesOf, List.map_eq_nil_iff, SuperGraph.cycleNodes_eq_nil_iff, Linked.graph,
    List.forall_mem_map, same]
  intro d found
  obtain ⟨c, _, rfl⟩ := List.mem_map.1 found
  simp [Diagnostic.isError, Diagnostic.severity, grave]

/-- There are no cycles exactly if no class and no interface is above itself. -/
theorem noErrors_inheritanceCycles :
    NoErrors (inheritanceCycles m) ↔
      (∀ t ∈ m.model.ofKind .classKind, ¬ TransGen (m.HasSuper .superClasses) t.key t.key) ∧
      ∀ t ∈ m.model.ofKind .interface, ¬ TransGen (m.HasSuper .superInterfaces) t.key t.key := by
  rw [inheritanceCycles, noErrors_append]
  exact and_congr (noErrors_cyclesOf rfl _ _) (noErrors_cyclesOf rfl _ _)

/-- The associations are in order exactly if each of them has two ends. -/
theorem noErrors_associationArity :
    NoErrors (associationArity m) ↔ ∀ a ∈ m.associations, a.ends.length = 2 := by
  have two := noErrors_filterMap m.associations (fun a => ¬ a.ends.length = 2)
    (fun a => ⟨.associationArity, a.key, a.name, "ends", none⟩) fun _ => rfl
  simpa only [associationArity, ite_not, not_not] using two

/-- Abstract operations are in order exactly if they are in abstract classes. -/
theorem noErrors_abstractOperations :
    NoErrors (abstractOperations m) ↔ ∀ t ∈ m.classes, shouldBeAbstract t = false := by
  have fine := noErrors_filterMap m.classes (fun t => shouldBeAbstract t)
    (fun t => .atName .concreteWithAbstractOperations t.key t.name) fun _ => rfl
  simpa only [abstractOperations, Bool.not_eq_true] using fine

/-- The members of a class do not clash exactly if their names are distinct, also from those of its properties. -/
theorem noErrors_memberClashes (t : LinkedType) :
    NoErrors (memberClashes m t) ↔ ((m.associationMembers t).map (·.name)).Nodup ∧
      ∀ d ∈ m.associationMembers t, ∀ p ∈ t.properties, p.name ≠ d.name := by
  -- Of the two findings about a member the first one leaves no room for the other, but both are errors.
  have either : memberClashes m t = (m.associationMembers t).filterMap fun d =>
      if (t.properties.map (·.name)).contains d.name ∨
          isRepeated ((m.associationMembers t).map (·.name)) d.name then
        some (.atName (if (t.properties.map (·.name)).contains d.name then
          .endClashesWithProperty d.name else .duplicateEnd d.name t.name) d.far.place.key d.name)
      else none := by
    refine List.filterMap_congr fun d _ => ?_
    by_cases declared : (t.properties.map (·.name)).contains d.name = true
    · rw [if_pos declared, if_pos (.inl declared), if_pos declared]
    · simp only [declared, Bool.false_eq_true, false_or, if_false]
  rw [either, noErrors_filterMap, nodup_iff_not_repeated, List.forall_mem_map, ← forall₂_and]
  · refine forall₂_congr fun d _ => ?_
    have apart : ¬ (t.properties.map (·.name)).contains d.name = true ↔
        ∀ p ∈ t.properties, p.name ≠ d.name := by
      simp
    rw [not_or, apart, and_comm, Bool.not_eq_true]
  · intro d
    split <;> rfl

end Validation

end ClassDiagram
