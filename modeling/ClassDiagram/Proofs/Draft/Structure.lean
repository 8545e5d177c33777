import ClassDiagram.Proofs.Diagram.Structure
import ClassDiagram.Proofs.Draft.Generation
import ClassDiagram.Proofs.Draft.Members

/-!
# The structure that Java and diagrams show of a draft

In a linked draft the ends of associations lead to elements of the draft, those at classes to classes that have
members (`IsTyped.view_isNamed`, `IsCurrent.view_isRooted`).  So the Java files and the diagrams of a draft show the same
super types and the same associations, and these are the associations that give members to classes
(`shows_same_structure`).
-/

set_option autoImplicit false

namespace ClassDiagram.Draft

variable {d : Draft}

/-- The linked form has names where the elements of the draft have. -/
theorem IsTyped.view_isNamed (typed : d.IsTyped) (named : ∀ e ∈ d.elements, e.name ≠ "") : d.view.IsNamed where
  types := by
    intro t there
    rw [types_view] at there
    obtain ⟨own, known, rfl⟩ := List.mem_map.1 there
    exact named _ (mem_elements_of_tree (Model.mem_types_iff.1 known))
  ends := by
    intro a there e among target found
    obtain ⟨p, r, holder, inside, reference, aimed, leads⟩ := exists_reference_of_endType there among found
    cases holder with
    | model => exact absurd aimed (typed.targetOf_ne_model (mem_elements_of_tree inside) reference)
    | element origin =>
      obtain ⟨x, known, -, name, -⟩ := exists_element_of_targetAt leads
      rw [name]
      exact named x known

/-- In a draft where everything is of its kind, each file and each diagram is that of the linked form. -/
theorem IsTyped.writesAlone (typed : d.IsTyped) (s : Java.Settings) (g : Diagram.Settings) : d.WritesAlone s g where
  types := (IsReading.refl d).linked_typeForms typed
  packages := (IsReading.refl d).linked_packageForms typed
  source := (IsReading.refl d).gives_sourceOf typed typed s
  diagram := (IsReading.refl d).gives_diagramOf typed typed g

/-- From every linked draft in which everything is of its kind and has a name, Java files and diagrams show the same
structure of each package.  The names in the header of a Java type are, in order, those in the lines that the diagram
has for its super types.  Of the associations at classes, those have an edge that give some class a member, and the edge
names the types at the ends with their multiplicities, in order. -/
theorem shows_same_structure (linked : d.IsLinked) (typed : d.IsTyped) (named : ∀ e ∈ d.elements, e.name ≠ "")
    (s : Java.Settings) (g : Diagram.Settings) :
    d.WritesAlone s g ∧
      (∀ t, .classifier t ∈ d.elements →
        (d.members t.place.origin).1 = .ok (d.view.associationMembers (d.seen t))) ∧
      ∀ p ∈ d.view.model.allPackages, d.view.ShowsSame s g p := by
  have current := linked.isCurrent
  refine ⟨typed.writesAlone s g, fun t there => ?_, fun p there => ?_⟩
  · rw [typed.members_eq_ok, membersFound, current.sound.find?_seen there]
    rfl
  · exact current.view_isRooted.showsSame (typed.view_isNamed named) s g there

/-- A fleet whose ship has super types that are known, unknown, repeated and in another package, with associations
between classes, with an interface, with an unknown type and between three types. -/
def fleet : Declared :=
  ⟨[⟨(), "craft", [],
      [⟨(), "Vessel", .classBody ⟨true, [], [], [], []⟩⟩, ⟨(), "Floats", .interface ⟨[], [], []⟩⟩]⟩,
    ⟨(), "fleet", [],
      [⟨(), "Ship", .classBody ⟨false, [], [], ["Vessel", "Ghost", "Vessel"], ["Floats", "Haunts", "Sails"]⟩⟩,
        ⟨(), "Sails", .interface ⟨[], [], ["Moves", "Floats"]⟩⟩,
        ⟨(), "follows", .association [endAt "leader" "Ship" (.number 1), endAt "followers" "Ship" .unbounded]⟩,
        ⟨(), "lifts", .association [endAt "rig" "Sails" (.number 1), endAt "lifted" "Vessel" (.number 1)]⟩,
        ⟨(), "haunts", .association [endAt "ghost" "Ghost" (.number 1), endAt "haunted" "Ship" .unbounded]⟩,
        ⟨(), "races", .association
          [endAt "first" "Ship" (.number 1), endAt "second" "Ship" (.number 1), endAt "third" "Ship" (.number 1)]⟩]⟩]⟩

/-- The fleet, with a class that has two super classes and an interface, is shown alike by Java and its diagram. -/
theorem shows_same_structure_of_fleet :
    (ofDeclared fleet).WritesAlone ⟨.standard, .default, false⟩ ⟨"diagram", .standard, .standard⟩ ∧
      ∃ p ∈ (ofDeclared fleet).view.model.allPackages, p.name = "fleet" ∧
        (ofDeclared fleet).view.ShowsSame ⟨.standard, .default, false⟩ ⟨"diagram", .standard, .standard⟩ p ∧
        (p.types.map fun t => (t.name, extendedNames t, implementedNames t)) =
          [("Ship", ["Vessel", "Vessel"], ["Floats", "Sails"]), ("Sails", ["Floats"], []), ("follows", [], []),
            ("lifts", [], []), ("haunts", [], []), ("races", [], [])] ∧
        Diagram.relationLines .standard p.types = .ok
          ["Vessel <|-- Ship", "Vessel <|-- Ship", "Floats <|.. Ship", "Sails <|.. Ship", "Floats <|-- Sails",
            "Ship \"0..1\" -- \"0..*\" Ship : follows >", "Sails \"0..1\" -- \"0..1\" Vessel : lifts >"] := by
  have named : ∀ e ∈ (ofDeclared fleet).elements, e.name ≠ "" := by decide +kernel
  obtain ⟨alone, -, same⟩ := shows_same_structure (.declared fleet) (isTyped_ofDeclared fleet) named
    ⟨.standard, .default, false⟩ ⟨"diagram", .standard, .standard⟩
  have there : (ofDeclared fleet).view.model.allPackages.get ⟨1, by decide +kernel⟩ ∈
      (ofDeclared fleet).view.model.allPackages := List.get_mem ..
  exact ⟨alone, _, there, by decide +kernel, same _ there, by decide +kernel, by decide +kernel⟩

end ClassDiagram.Draft
