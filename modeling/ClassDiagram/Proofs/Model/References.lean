import ClassDiagram.Proofs.Model.Settled

/-!
# The walk over a model and its references

The walk over the elements of a model comes to every position of the tree, and to each one time (`Model.mem_walk_iff`,
`Model.ordered_walk`): no element comes after one that it contains.  The references that it meets are those that the
elements declare (`Element.mem_references_iff`), each at a spot of its own (`Model.nodup_spots`).
-/

set_option autoImplicit false

namespace ClassDiagram

variable {ι ρ : Type}

/-! ## Declared references -/

/-- Whether an element itself declares a reference, in a field and at a position there: as the type of a property or an
end, as the type of an operation or a parameter, or among the super types of a class or an interface. -/
inductive Element.Declares : Element ι ρ → RefField → Nat → ρ → Prop where
  | propertyType {p : Property ι ρ} {r : ρ} (type : p.type = some r) : Declares (.property p) .type 0 r
  | operationType {o : Operation ι ρ} {r : ρ} (type : o.type = some r) : Declares (.operation o) .type 0 r
  | parameterType {q : Parameter ι ρ} {r : ρ} (type : q.type = some r) : Declares (.parameter q) .type 0 r
  | superClass {place : ι} {name : String} {c : ClassBody ι ρ} {i : Nat} {r : ρ}
    (listed : c.superClasses[i]? = some r) :
    Declares (.classifier ⟨place, name, .classBody c⟩) .superClasses i r
  | classInterface {place : ι} {name : String} {c : ClassBody ι ρ} {i : Nat} {r : ρ}
    (listed : c.superInterfaces[i]? = some r) :
    Declares (.classifier ⟨place, name, .classBody c⟩) .superInterfaces i r
  | superInterface {place : ι} {name : String} {c : InterfaceBody ι ρ} {i : Nat} {r : ρ}
    (listed : c.superInterfaces[i]? = some r) :
    Declares (.classifier ⟨place, name, .interface c⟩) .superInterfaces i r

section

variable {field field' : RefField} {i : Nat} {r : ρ}

/-- The reference to a type is the only one in its field. -/
theorem mem_typeReference_iff {type : Option ρ} :
    (field, i, r) ∈ typeReference type ↔ type = some r ∧ field = .type ∧ i = 0 := by
  cases type with
  | none => simp [typeReference]
  | some r' =>
    simp only [typeReference, Option.toList_some, List.map_cons, List.map_nil, List.mem_singleton, Prod.mk.injEq,
      Option.some.injEq]
    tauto

/-- A numbered reference is the one at its place. -/
theorem mem_numbered_iff {listed : List ρ} :
    (field, i, r) ∈ numbered field' listed ↔ field = field' ∧ listed[i]? = some r := by
  simp only [numbered, List.mem_map, Prod.exists, List.mem_zipIdx_iff_getElem?, Prod.mk.injEq]
  constructor
  · rintro ⟨r', i', there, rfl, rfl, rfl⟩
    exact ⟨rfl, there⟩
  · rintro ⟨rfl, there⟩
    exact ⟨r, i, there, rfl, rfl, rfl⟩

/-- The references that are read off an element are those that it declares. -/
theorem Element.mem_references_iff {e : Element ι ρ} : (field, i, r) ∈ e.references ↔ e.Declares field i r := by
  constructor
  · intro among
    cases e with
    | package p => cases among
    | classifier t =>
      obtain ⟨place, name, body⟩ := t
      cases body with
      | classBody c =>
        rcases List.mem_append.1 among with super | interface
        · obtain ⟨rfl, listed⟩ := mem_numbered_iff.1 super
          exact .superClass listed
        · obtain ⟨rfl, listed⟩ := mem_numbered_iff.1 interface
          exact .classInterface listed
      | interface c =>
        obtain ⟨rfl, listed⟩ := mem_numbered_iff.1 among
        exact .superInterface listed
      | _ => cases among
    | property p =>
      obtain ⟨type, rfl, rfl⟩ := mem_typeReference_iff.1 among
      exact .propertyType type
    | operation o =>
      obtain ⟨type, rfl, rfl⟩ := mem_typeReference_iff.1 among
      exact .operationType type
    | parameter q =>
      obtain ⟨type, rfl, rfl⟩ := mem_typeReference_iff.1 among
      exact .parameterType type
  · intro declared
    cases declared with
    | propertyType type => exact mem_typeReference_iff.2 ⟨type, rfl, rfl⟩
    | operationType type => exact mem_typeReference_iff.2 ⟨type, rfl, rfl⟩
    | parameterType type => exact mem_typeReference_iff.2 ⟨type, rfl, rfl⟩
    | superClass listed => exact List.mem_append_left _ (mem_numbered_iff.2 ⟨rfl, listed⟩)
    | classInterface listed => exact List.mem_append_right _ (mem_numbered_iff.2 ⟨rfl, listed⟩)
    | superInterface listed => exact mem_numbered_iff.2 ⟨rfl, listed⟩

/-- Numbered references are at distinct spots. -/
theorem nodup_spots_numbered (listed : List ρ) :
    ((numbered field listed).map fun r => (r.1, r.2.1)).Nodup := by
  have spots : (numbered field listed).map (fun r => (r.1, r.2.1)) = (List.range listed.length).map (field, ·) := by
    rw [numbered, List.map_map, List.range_eq_range', ← List.zipIdx_map_snd 0 listed, List.map_map]
    rfl
  rw [spots]
  apply List.nodup_range.map
  intro i j same
  simpa using same

/-- No element has two references at one position of a field. -/
theorem Element.nodup_spots (e : Element ι ρ) : (e.references.map fun r => (r.1, r.2.1)).Nodup := by
  have typed (type : Option ρ) : ((typeReference type).map fun r => (r.1, r.2.1)).Nodup := by
    cases type <;> simp [typeReference]
  cases e with
  | package p => exact List.nodup_nil
  | classifier t =>
    obtain ⟨place, name, body⟩ := t
    cases body with
    | classBody c =>
      change ((numbered .superClasses c.superClasses ++ numbered .superInterfaces c.superInterfaces).map _).Nodup
      rw [List.map_append, List.nodup_append']
      refine ⟨nodup_spots_numbered _, nodup_spots_numbered _, ?_⟩
      intro spot super interface
      obtain ⟨⟨field, i, r⟩, among, rfl⟩ := List.mem_map.1 super
      obtain ⟨⟨field', i', r'⟩, among', same⟩ := List.mem_map.1 interface
      have first := (mem_numbered_iff.1 among).1
      have second := (mem_numbered_iff.1 among').1
      simp [first, second] at same
    | interface c => exact nodup_spots_numbered c.superInterfaces
    | _ => exact List.nodup_nil
  | property p => exact typed p.type
  | operation o => exact typed o.type
  | parameter q => exact typed q.type

end

/-! ## The walk -/

/-- What is under one step from a position does not contain what is under another one. -/
theorem Key.Under.not_prefix {k k' : Key} {holder : Path} {step step' : Step} (first : k.Under holder step)
    (second : k'.Under holder step') (differ : step ≠ step') : ¬ k'.path <+: k.path := by
  obtain ⟨rest, rfl⟩ := first
  obtain ⟨rest', rfl⟩ := second
  intro around
  rw [Key.path, Key.path, List.prefix_append_right_inj, List.cons_prefix_cons] at around
  exact differ around.1.symm

namespace Linking

/-- Where different steps lead to elements, nothing that is in one of them comes after what it is in. -/
theorem ordered_parts {path : Path} {names : List String} {parts : List (Step × Element ι ρ)}
    (apart : (parts.map Prod.fst).Nodup) (suits : ∀ part ∈ parts, part.1.Suits part.2)
    (inside : ∀ part ∈ parts, ((settleElement path names part.1 part.2).all.map (·.place.key.path)).Pairwise
      fun p q => ¬ q <+: p) :
    ((parts.flatMap fun (next, c) => (settleElement path names next c).all).map (·.place.key.path)).Pairwise
      fun p q => ¬ q <+: p := by
  rw [List.map_flatMap, List.pairwise_flatMap]
  refine ⟨inside, (List.pairwise_map.1 apart).imp_of_mem ?_⟩
  intro part part' among among' differ p holds q holds'
  obtain ⟨s, within, rfl⟩ := List.mem_map.1 holds
  obtain ⟨s', within', rfl⟩ := List.mem_map.1 holds'
  have under := (nodup_keys_settleElement path names (suits part among)).2 s within
  have under' := (nodup_keys_settleElement path names (suits part' among')).2 s' within'
  exact under.not_prefix under' differ

/-- In what a settled element holds, nothing comes after an element that is in it. -/
theorem ordered_settleElement (holder : Path) (home : List String) {step : Step} {e : Element ι ρ}
    (suits : step.Suits e) :
    ((settleElement holder home step e).all.map (·.place.key.path)).Pairwise fun p q => ¬ q <+: p := by
  induction e using Element.induction generalizing holder home step with
  | step e ih =>
    obtain ⟨names, all⟩ := all_settleElement holder home suits
    have fits (part : Step × Element ι ρ) (among : part ∈ e.steps) : part.1.Suits part.2 :=
      Element.suits_of_mem_steps among
    rw [all, List.map_cons, key_settleElement holder home suits, List.pairwise_cons]
    constructor
    · -- What the element holds has a longer way than the element.
      intro q later around
      obtain ⟨s, inside, rfl⟩ := List.mem_map.1 later
      obtain ⟨part, among, within⟩ := List.mem_flatMap.1 inside
      obtain ⟨rest, under⟩ := (nodup_keys_settleElement _ names (fits part among)).2 s within
      have short := around.length_le
      rw [under] at short
      simp [Key.path] at short
    · apply ordered_parts e.nodup_steps fits
      intro part among
      exact ih part.2 (List.mem_map_of_mem among) _ _ (fits part among)

end Linking

open Linking

namespace Model

variable {m : Model ι ρ} {path : Path} {e : Element ι ρ}

/-- The elements of a model in the order in which they are visited, each with its position. -/
def walk (m : Model ι ρ) : List (Path × Element ι ρ) :=
  (m.elements.zip (settle m).elements).map fun (e, s) => (s.place.key.path, e)

/-- The paths of a walk are those of the settled elements. -/
theorem walk_map_fst (m : Model ι ρ) : m.walk.map Prod.fst = (settle m).elements.map (·.place.key.path) := by
  have second : (m.elements.zip (settle m).elements).map Prod.snd = (settle m).elements :=
    List.map_snd_zip (by simp [length_settle])
  rw [← second, walk, List.map_map, List.map_map]
  rfl

/-- The elements of a walk are those of the model. -/
theorem walk_map_snd (m : Model ι ρ) : m.walk.map Prod.snd = m.elements := by
  have first : (m.elements.zip (settle m).elements).map Prod.fst = m.elements :=
    List.map_fst_zip (by simp [length_settle])
  rw [walk, List.map_map]
  exact first

/-- The walk comes to the elements at the positions of the model. -/
theorem mem_walk_iff : (path, e) ∈ m.walk ↔ ∃ around, m.At path e around := by
  constructor
  · intro found
    obtain ⟨⟨e', s⟩, pair, same⟩ := List.mem_map.1 found
    obtain ⟨rfl, rfl⟩ := Prod.mk.inj same
    obtain ⟨path, around, there, key⟩ := at_of_mem_zip pair
    rw [key]
    exact ⟨around, there⟩
  · rintro ⟨around, there⟩
    obtain ⟨s, pair, key⟩ := mem_zip_of_at there
    have same : s.place.key.path = path := by
      rw [key]
      rfl
    exact List.mem_map.2 ⟨(e, s), pair, congrArg (·, e) same⟩

/-- No element of the walk comes after one that it contains, and none comes twice. -/
theorem ordered_walk (m : Model ι ρ) : m.walk.Pairwise fun a b => ¬ b.1 <+: a.1 := by
  rw [← List.pairwise_map (R := fun p q => ¬ q <+: p), walk_map_fst, elements_settle]
  apply ordered_parts
  · exact nodup_numberedParts fun i j same => Step.package.inj same
  · intro part among
    exact suits_of_mem_steps among
  · intro part among
    exact ordered_settleElement [] [] (suits_of_mem_steps among)

/-- The paths of a walk are distinct. -/
theorem nodup_walk (m : Model ι ρ) : (m.walk.map Prod.fst).Nodup := by
  rw [List.Nodup, List.pairwise_map]
  refine m.ordered_walk.imp ?_
  intro a b apart same
  exact apart (same ▸ List.prefix_rfl)

end Model

/-! ## Spots -/

/-- A reference that an element of a model declares: the position of the element and the element, the field and the
position in it, and the reference. -/
structure Declaration (ι ρ : Type) where
  path : Path
  element : Element ι ρ
  field : RefField
  index : Nat
  reference : ρ

/-- Where a reference is declared. -/
def Declaration.spot (x : Declaration ι ρ) : Path × RefField × Nat := (x.path, x.field, x.index)

/-- Whether a model has a declaration. -/
structure Declaration.IsOf (x : Declaration ι ρ) (m : Model ι ρ) : Prop where
  there : ∃ around, m.At x.path x.element around
  declared : x.element.Declares x.field x.index x.reference

namespace Model

/-- The references that the walk over a model meets. -/
def declarations (m : Model ι ρ) : List (Declaration ι ρ) :=
  m.walk.flatMap fun (path, e) => e.references.map fun (field, i, r) => ⟨path, e, field, i, r⟩

/-- A declaration is one of a model exactly if it is that of one of its references. -/
theorem mem_declarations_iff {m : Model ι ρ} {x : Declaration ι ρ} : x ∈ m.declarations ↔ x.IsOf m := by
  constructor
  · intro found
    obtain ⟨⟨path, e⟩, among, inside⟩ := List.mem_flatMap.1 found
    obtain ⟨⟨field, i, r⟩, listed, rfl⟩ := List.mem_map.1 inside
    exact ⟨mem_walk_iff.1 among, Element.mem_references_iff.1 listed⟩
  · rintro ⟨there, declared⟩
    refine List.mem_flatMap.2 ⟨(x.path, x.element), mem_walk_iff.2 there, ?_⟩
    exact List.mem_map.2 ⟨_, Element.mem_references_iff.2 declared, rfl⟩

/-- No two references of a model are declared at one spot. -/
theorem nodup_spots (m : Model ι ρ) : (m.declarations.map Declaration.spot).Nodup := by
  have here (path : Path) (e : Element ι ρ) :
      ((e.references.map fun (field, i, r) => (⟨path, e, field, i, r⟩ : Declaration ι ρ)).map Declaration.spot) =
        (e.references.map fun r => (r.1, r.2.1)).map (path, ·) := by
    rw [List.map_map, List.map_map]
    rfl
  rw [declarations, List.map_flatMap, List.nodup_flatMap]
  constructor
  · rintro ⟨path, e⟩ _
    dsimp only
    rw [here]
    exact e.nodup_spots.map fun a b same => (Prod.mk.inj same).2
  · refine (List.pairwise_map.1 m.nodup_walk).imp ?_
    rintro ⟨path, e⟩ ⟨path', e'⟩ apart spot inside inside'
    dsimp only at inside inside' apart
    rw [here] at inside inside'
    obtain ⟨_, _, rfl⟩ := List.mem_map.1 inside
    obtain ⟨_, _, same⟩ := List.mem_map.1 inside'
    exact apart (Prod.mk.inj same).1.symm

/-- Declarations at one spot are equal. -/
theorem mem_declarations_inj {m : Model ι ρ} {x y : Declaration ι ρ} (known : x ∈ m.declarations)
    (known' : y ∈ m.declarations) (same : x.spot = y.spot) : x = y :=
  List.inj_on_of_nodup_map m.nodup_spots known known' same

end Model

end ClassDiagram
