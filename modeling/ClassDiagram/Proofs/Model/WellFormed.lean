import ClassDiagram.Proofs.Model.Findings

/-!
# Models without errors

The check of a model finds no error exactly if the model is well formed (`no_errors_iff_well_formed`).
What is well formed is said over the packages of the model and the packages in them, not in the order in
which the check visits them.
-/

set_option autoImplicit false

namespace ClassDiagram

open Relation

variable {ι ρ : Type}

/-! ## Packages and types -/

/-- The packages of a model: those at the top, and those in its packages. -/
inductive Model.HasPackage (m : Model ι ρ) : Package ι ρ → Prop where
  | top {p : Package ι ρ} (there : p ∈ m.packages) : HasPackage m p
  | nested {p q : Package ι ρ} (outer : HasPackage m q) (there : p ∈ q.packages) : HasPackage m p

/-- The types in the packages of a model. -/
def Model.HasType (m : Model ι ρ) (t : Classifier ι ρ) : Prop := ∃ p, m.HasPackage p ∧ t ∈ p.types

/-- A package is among others exactly if it is the first, inside it or among the rest. -/
theorem mem_allPackages_cons {p : Package ι ρ} (place : ι) (name : String)
    (packages rest : List (Package ι ρ)) (types : List (Classifier ι ρ)) :
    p ∈ allPackages (⟨place, name, packages, types⟩ :: rest) ↔
      p = ⟨place, name, packages, types⟩ ∨ p ∈ allPackages packages ∨ p ∈ allPackages rest := by
  rw [allPackages, Package.all, List.cons_append, List.mem_cons, List.mem_append]

/-- A package is one of all packages. -/
theorem mem_allPackages_of_mem {p : Package ι ρ} : (ps : List (Package ι ρ)) → p ∈ ps → p ∈ allPackages ps
  | [], there => absurd there List.not_mem_nil
  | ⟨_, _, _, _⟩ :: rest, there => by
    rw [mem_allPackages_cons]
    rcases List.mem_cons.1 there with first | later
    · exact .inl first
    · exact .inr (.inr (mem_allPackages_of_mem rest later))

/-- The traversal of packages comes to all packages in those that it comes to. -/
theorem mem_allPackages_of_nested {p q : Package ι ρ} (there : p ∈ q.packages) :
    (ps : List (Package ι ρ)) → q ∈ allPackages ps → p ∈ allPackages ps
  | [], outer => absurd outer List.not_mem_nil
  | ⟨_, _, packages, _⟩ :: rest, outer => by
    rw [mem_allPackages_cons] at outer ⊢
    rcases outer with rfl | inside | later
    · exact .inr (.inl (mem_allPackages_of_mem packages there))
    · exact .inr (.inl (mem_allPackages_of_nested there packages inside))
    · exact .inr (.inr (mem_allPackages_of_nested there rest later))

/-- All packages of some that a model has are packages of it. -/
theorem hasPackage_of_mem_allPackages {m : Model ι ρ} :
    (ps : List (Package ι ρ)) → (∀ p ∈ ps, m.HasPackage p) → ∀ p ∈ allPackages ps, m.HasPackage p
  | [], _, _, there => absurd there List.not_mem_nil
  | ⟨place, name, packages, types⟩ :: rest, known, p, there => by
    have first := known _ List.mem_cons_self
    rcases (mem_allPackages_cons place name packages rest types).1 there with rfl | inside | later
    · exact first
    · exact hasPackage_of_mem_allPackages packages (fun q among => .nested first among) p inside
    · exact hasPackage_of_mem_allPackages rest (fun q among => known q (List.mem_cons_of_mem _ among)) p later

/-- A package is one of all packages exactly if the model has it. -/
theorem Model.mem_allPackages {m : Model ι ρ} {p : Package ι ρ} :
    p ∈ m.allPackages ↔ m.HasPackage p := by
  constructor
  · exact hasPackage_of_mem_allPackages m.packages (fun p there => .top there) p
  · intro there
    induction there with
    | top there => exact mem_allPackages_of_mem m.packages there
    | nested _ there ih => exact mem_allPackages_of_nested there m.packages ih

/-- A type is one of a kind exactly if the model has it and it is of the kind. -/
theorem Model.mem_ofKind {m : Model ι ρ} {kind : Kind} {t : Classifier ι ρ} :
    t ∈ m.ofKind kind ↔ m.HasType t ∧ t.kind = kind := by
  simp only [ofKind, types, List.mem_filter, List.mem_flatMap, mem_allPackages, HasType, beq_iff_eq]

/-! ## Well-formed models -/

/-- Whether the names that have to be distinct in a model are distinct, no class and no interface inherits
from itself, associations have two ends, classes with abstract operations are abstract, and what
associations add to a class has names of its own. -/
structure Linked.IsWellFormed (m : Linked) : Prop where
  topNames : (m.model.packages.map (·.name)).Nodup
  packageNames : ∀ p, m.model.HasPackage p → (p.packages.map (·.name)).Nodup
  typeNames : ∀ p, m.model.HasPackage p → (p.types.map (·.name)).Nodup
  propertyNames : ∀ t, m.model.HasType t → (t.properties.map (·.name)).Nodup
  operationNames : ∀ t, m.model.HasType t → (t.operations.map (·.name)).Nodup
  endNames : ∀ t, m.model.HasType t → (t.ends.map (·.name)).Nodup
  literals : ∀ t, m.model.HasType t → t.literals.Nodup
  classes : ∀ t, m.model.HasType t → t.kind = .classKind →
    ¬ TransGen (m.HasSuper .superClasses) t.key t.key
  interfaces : ∀ t, m.model.HasType t → t.kind = .interface →
    ¬ TransGen (m.HasSuper .superInterfaces) t.key t.key
  arity : ∀ t, m.model.HasType t → t.kind = .association → t.ends.length = 2
  abstractness : ∀ t, m.model.HasType t → ∀ c, t.body = .classBody c →
    (∃ o ∈ c.operations, o.isAbstract = true) → c.isAbstract = true
  memberNames : ∀ t, m.model.HasType t → t.kind = .classKind →
    ((m.associationMembers t).map (·.name)).Nodup
  memberApart : ∀ t, m.model.HasType t → t.kind = .classKind →
    ∀ d ∈ m.associationMembers t, ∀ p ∈ t.properties, p.name ≠ d.name

namespace Validation

variable {m : Linked}

/-- A class is as it should be exactly if it is abstract where an operation of it is. -/
theorem shouldBeAbstract_eq_false {t : Classifier Place ρ} :
    shouldBeAbstract t = false ↔ ∀ c, t.body = .classBody c →
      (∃ o ∈ c.operations, o.isAbstract = true) → c.isAbstract = true := by
  rw [shouldBeAbstract]
  cases t.body with
  | classBody c => simp [ClassBody.declaresAbstract]
  | interface _ => simp
  | datatype _ => simp
  | primitive => simp
  | enumeration _ => simp
  | association _ => simp

/-- Names are compared in every package and in every type of the model. -/
theorem noErrors_duplicateNames_iff {m : Model Place ρ} :
    NoErrors (duplicateNames m) ↔ (m.packages.map (·.name)).Nodup ∧
      (∀ p, m.HasPackage p → (p.packages.map (·.name)).Nodup ∧ (p.types.map (·.name)).Nodup) ∧
      ∀ t, m.HasType t → NoErrors (typeDuplicates t) := by
  simp only [noErrors_duplicateNames, noErrors_packageDuplicates, Model.mem_allPackages]
  refine and_congr_right fun _ => ⟨fun each => ⟨fun p held => ?_, ?_⟩, fun ⟨each, types⟩ p held => ?_⟩
  · exact ⟨(each p held).1, (each p held).2.1⟩
  · rintro t ⟨p, held, there⟩
    exact (each p held).2.2 t there
  · exact ⟨(each p held).1, (each p held).2, fun t there => types t ⟨p, held, there⟩⟩

/-- Members do not clash exactly if those of each class have distinct names, also from those of its properties. -/
theorem noErrors_associationMembers :
    NoErrors (associationMembers m) ↔ ∀ t, m.model.HasType t → t.kind = .classKind →
      ((m.associationMembers t).map (·.name)).Nodup ∧
        ∀ d ∈ m.associationMembers t, ∀ p ∈ t.properties, p.name ≠ d.name := by
  simp only [associationMembers, noErrors_flatMap, noErrors_memberClashes, Linked.classes,
    Model.mem_ofKind, and_imp]

/-- The structure of a model has no errors exactly if it is well formed. -/
theorem noErrors_structureFindings : NoErrors (structureFindings m) ↔ m.IsWellFormed := by
  simp only [structureFindings, noErrors_append, noErrors_naming, true_and, noErrors_duplicateNames_iff,
    noErrors_typeDuplicates, noErrors_inheritanceCycles, noErrors_associationArity,
    noErrors_abstractOperations, shouldBeAbstract_eq_false, noErrors_associationMembers,
    Linked.associations, Linked.classes, Model.mem_ofKind, and_imp]
  constructor
  · rintro ⟨⟨⟨⟨⟨top, packages, types⟩, classes, interfaces⟩, arity⟩, abstractness⟩, members⟩
    exact {
      topNames := top
      packageNames := fun p held => (packages p held).1
      typeNames := fun p held => (packages p held).2
      propertyNames := fun t there => (types t there).1
      operationNames := fun t there => (types t there).2.1
      endNames := fun t there => (types t there).2.2.1
      literals := fun t there => (types t there).2.2.2
      classes := classes
      interfaces := interfaces
      arity := arity
      abstractness := fun t there c declared => by
        refine abstractness t there ?_ c declared
        rw [Classifier.kind, declared]
        rfl
      memberNames := fun t there isClass => (members t there isClass).1
      memberApart := fun t there isClass => (members t there isClass).2 }
  · intro formed
    refine ⟨⟨⟨⟨⟨formed.topNames, fun p held => ?_, fun t there => ?_⟩, formed.classes, formed.interfaces⟩,
      formed.arity⟩, fun t there _ => formed.abstractness t there⟩, fun t there isClass => ?_⟩
    · exact ⟨formed.packageNames p held, formed.typeNames p held⟩
    · exact ⟨formed.propertyNames t there, formed.operationNames t there, formed.endNames t there,
        formed.literals t there⟩
    · exact ⟨formed.memberNames t there isClass, formed.memberApart t there isClass⟩

end Validation

/-- The errors that the check finds are those about the structure of a model. -/
theorem Linked.errors_eq (m : Linked) (report : Bool) :
    (m.diagnostics report).filter (·.isError) = (Validation.structureFindings m).filter (·.isError) := by
  have none : (Validation.unresolvedReferences m).filter (·.isError) = [] := by
    refine List.filter_eq_nil_iff.2 fun d found => ?_
    simp [Validation.noErrors_unresolvedReferences m d found]
  cases report <;> simp [diagnostics, none]

/-- The check of a model finds no error exactly if the model is well formed.  Whether references without
a target are reported makes no difference to the errors. -/
theorem no_errors_iff_well_formed (m : Linked) (report : Bool) :
    ((∀ d ∈ m.diagnostics report, d.isError = false) ↔ m.IsWellFormed) ∧
      (m.diagnostics report).filter (·.isError) = (m.diagnostics !report).filter (·.isError) := by
  refine ⟨?_, (m.errors_eq report).trans (m.errors_eq !report).symm⟩
  calc (∀ d ∈ m.diagnostics report, d.isError = false)
      ↔ (m.diagnostics report).filter (·.isError) = [] := by simp [List.filter_eq_nil_iff]
    _ ↔ NoErrors (Validation.structureFindings m) := by
      rw [m.errors_eq]
      simp [NoErrors, List.filter_eq_nil_iff]
    _ ↔ m.IsWellFormed := Validation.noErrors_structureFindings

end ClassDiagram
