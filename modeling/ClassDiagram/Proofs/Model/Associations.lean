import ClassDiagram.Proofs.Model.Findings
import ClassDiagram.Proofs.Model.Linked

/-!
# Members of associations

A class has a member for each end of an association on the far side of an end at the class, and no other
ones (`mem_associationMembers`).  So the class at the far end has the opposite member.  In a model without
errors no two members of a class in its packages have one name, nor have the two ends of an association.
Of the classes outside, to which ends may have been bound, this is not checked.
-/

set_option autoImplicit false

namespace ClassDiagram

variable {m : Linked} {a owner other : LinkedType} {e far opposite : LinkedProperty}

/-! ## Ends -/

/-- An end is at a class exactly if its type is that class. -/
theorem isEndAt_iff {key : Key} : isEndAt e key = true ↔ ∃ t, e.endType = some t ∧ t.key = key := by
  rw [isEndAt]
  cases e.endType <;> simp

/-- An end is on the far side of a class exactly if the other of two ends is at the class. -/
theorem mem_farEnds {ends : List LinkedProperty} {key : Key} :
    far ∈ farEnds ends key ↔
      ∃ near, (ends = [far, near] ∨ ends = [near, far]) ∧ isEndAt near key = true := by
  constructor
  · intro there
    unfold farEnds at there
    split at there
    · next first second =>
      split at there
      · next atFirst atSecond =>
        rcases List.mem_cons.1 there with rfl | last
        · exact ⟨second, .inl rfl, atSecond⟩
        · obtain rfl := List.mem_singleton.1 last
          exact ⟨first, .inr rfl, atFirst⟩
      · next atFirst _ =>
        obtain rfl := List.mem_singleton.1 there
        exact ⟨first, .inr rfl, atFirst⟩
      · next _ atSecond =>
        obtain rfl := List.mem_singleton.1 there
        exact ⟨second, .inl rfl, atSecond⟩
      · exact absurd there (by simp)
    · exact absurd there (by simp)
  · rintro ⟨near, rfl | rfl, atNear⟩
    · simp only [farEnds, atNear]
      cases isEndAt far key <;> simp
    · simp only [farEnds, atNear]
      cases isEndAt far key <;> simp

/-- Keys of which later ones are dropped are the same keys. -/
theorem mem_distinctKeys {keys : List Key} {key : Key} : key ∈ distinctKeys keys ↔ key ∈ keys := by
  have grows (seen : List Key) :
      key ∈ keys.foldl (fun seen k => if seen.contains k then seen else seen ++ [k]) seen ↔
        key ∈ seen ∨ key ∈ keys := by
    induction keys generalizing seen with
    | nil => simp
    | cons k rest ih =>
      rw [List.foldl_cons, ih]
      split
      · next there =>
        have held : k ∈ seen := by simpa using there
        constructor
        · rintro (old | later)
          · exact .inl old
          · exact .inr (List.mem_cons_of_mem k later)
        · rintro (old | later)
          · exact .inl old
          · rcases List.mem_cons.1 later with rfl | below
            · exact .inl held
            · exact .inr below
      · simp [or_assoc]
  simpa [distinctKeys] using grows []

/-- A class takes part in an association exactly if one of its ends is at the class. -/
theorem mem_associationsAt {key : Key} :
    a ∈ m.associationsAt key ↔ a ∈ m.associations ∧
      ∃ e ∈ a.ends, ∃ t, e.endType = some t ∧ t.kind = .classKind ∧ t.key = key := by
  have takesPart (a : LinkedType) : key ∈ Linked.participatingClasses a ↔
      ∃ e ∈ a.ends, ∃ t, e.endType = some t ∧ t.kind = .classKind ∧ t.key = key := by
    rw [Linked.participatingClasses, mem_distinctKeys, List.mem_filterMap]
    refine exists_congr fun e => and_congr_right fun _ => ?_
    cases e.endType with
    | none => simp
    | some t => by_cases isClass : t.kind = .classKind <;> simp [isClass]
  simp only [Linked.associationsAt, Linked.participations, List.mem_map, List.mem_filter,
    List.mem_flatMap, beq_iff_eq, ← takesPart a]
  constructor
  · rintro ⟨_, ⟨⟨a', among, _, there, rfl⟩, rfl⟩, rfl⟩
    exact ⟨among, there⟩
  · rintro ⟨among, there⟩
    exact ⟨(key, a), ⟨⟨a, among, key, there, rfl⟩, rfl⟩, rfl⟩

/-- The ends on both sides of a member are ends of the association. -/
theorem mem_ends (ends : a.ends = [far, opposite] ∨ a.ends = [opposite, far]) : far ∈ a.ends := by
  rcases ends with ends | ends <;> simp [ends]

namespace Linked

/-- The classes that a linked model knows: those of its packages and those outside. -/
def everyClass (m : Linked) : List LinkedType := m.everyType.filter (·.kind == .classKind)

/-- A class that a model knows is a type that it knows, of the kind of classes. -/
theorem mem_everyClass : owner ∈ m.everyClass ↔ owner ∈ m.everyType ∧ owner.kind = .classKind := by
  rw [everyClass, List.mem_filter, beq_iff_eq]

/-- A class of the packages of a model is known to it. -/
theorem mem_everyType (isClass : owner ∈ m.classes) : owner ∈ m.everyType :=
  List.mem_append_left _ (List.mem_filter.1 isClass).1

/-- A class of the packages of a model is of the kind of classes. -/
theorem kind_of_mem_classes (isClass : owner ∈ m.classes) : owner.kind = .classKind :=
  eq_of_beq (List.mem_filter.1 isClass).2

/-- The classes of the packages of a model are among those that it knows. -/
theorem mem_everyClass_of_mem_classes (isClass : owner ∈ m.classes) : owner ∈ m.everyClass :=
  mem_everyClass.2 ⟨mem_everyType isClass, kind_of_mem_classes isClass⟩

/-- A class that a model knows is in its packages or outside. -/
theorem mem_classes_or_strays (known : owner ∈ m.everyClass) : owner ∈ m.classes ∨ owner ∈ m.strays := by
  obtain ⟨there, kind⟩ := mem_everyClass.1 known
  rcases List.mem_append.1 there with inside | outside
  · exact .inl (List.mem_filter.2 ⟨inside, by simpa using kind⟩)
  · exact .inr outside

end Linked

/-! ## Members -/

namespace Linked.IsRooted

variable (rooted : m.IsRooted)
include rooted

/-- The types of a model are known by their keys. -/
theorem type_eq (first : owner ∈ m.everyType) (second : other ∈ m.everyType)
    (same : owner.key = other.key) : owner = other :=
  List.inj_on_of_nodup_map rooted.keys first second same

/-- An end of an association belongs to the association. -/
theorem associationOf?_eq (among : a ∈ m.associations) (there : e ∈ a.ends) :
    m.associationOf? e = some a := by
  obtain ⟨held, kind⟩ := List.mem_filter.1 among
  have known : a ∈ m.everyType := List.mem_append_left _ held
  have finds : (m.everyType.find? fun t => t.kind == .association && t.key == a.key) = some a := by
    refine find?_eq_some_of_unique known (by simpa using kind) fun a' among' same => ?_
    exact rooted.type_eq among' known (beq_iff_eq.1 (Bool.and_eq_true_iff.1 same).2)
  rw [Linked.associationOf?, rooted.holders a among e there]
  exact finds

/-- The opposite of an end of an association is the other one of its two ends. -/
theorem opposite?_eq (among : a ∈ m.associations)
    (ends : a.ends = [far, opposite] ∨ a.ends = [opposite, far]) : m.opposite? far = some opposite := by
  have apart := rooted.endKeys a among
  rw [Linked.opposite?, rooted.associationOf?_eq among (mem_ends ends)]
  rcases ends with ends | ends
  · have ne : ¬ far.place.key = opposite.place.key := by simpa [ends] using apart
    simp [ends, Ne.symm ne]
  · have ne : ¬ opposite.place.key = far.place.key := by simpa [ends] using apart
    simp [ends, ne]

/-- The members of a type: one for each end of an association at the type whose other end has its key. -/
theorem mem_associationMembers_iff {d : AssociationMember} :
    d ∈ m.associationMembers owner ↔ d.owner = owner ∧ d.target.isSome ∧ isEndAt d.opposite owner.key = true ∧
      ∃ a ∈ m.associationsAt owner.key, a.ends = [d.far, d.opposite] ∨ a.ends = [d.opposite, d.far] := by
  simp only [Linked.associationMembers, List.mem_flatMap, List.mem_filterMap, mem_farEnds]
  constructor
  · rintro ⟨a, among, far, ⟨near, ends, atNear⟩, built⟩
    obtain ⟨typed, paired⟩ := Option.ite_none_right_eq_some.1 built
    rw [rooted.opposite?_eq (mem_associationsAt.1 among).1 ends] at paired
    obtain rfl := Option.some.inj paired
    exact ⟨rfl, typed, atNear, a, among, ends⟩
  · rintro ⟨rfl, typed, atNear, a, among, ends⟩
    refine ⟨a, among, d.far, ⟨d.opposite, ends, atNear⟩, ?_⟩
    have opposed := rooted.opposite?_eq (mem_associationsAt.1 among).1 ends
    refine (if_pos typed).trans ?_
    rw [opposed]
    rfl

/-- The members of a class: one for each end of an association whose other end is at the class. -/
theorem mem_associationMembers (known : owner ∈ m.everyClass) {d : AssociationMember} :
    d ∈ m.associationMembers owner ↔ d.owner = owner ∧ d.target.isSome ∧
      d.opposite.endType = some owner.target ∧
      ∃ a ∈ m.associations, a.ends = [d.far, d.opposite] ∨ a.ends = [d.opposite, d.far] := by
  obtain ⟨there, kind⟩ := Linked.mem_everyClass.1 known
  rw [rooted.mem_associationMembers_iff]
  refine and_congr_right fun _ => and_congr_right fun _ => ?_
  simp only [mem_associationsAt, isEndAt_iff]
  constructor
  · rintro ⟨⟨t, found, same⟩, a, ⟨among, _⟩, ends⟩
    rw [rooted.told a among _ (mem_ends ends.symm) t found owner there same] at found
    exact ⟨found, a, among, ends⟩
  · rintro ⟨found, a, among, ends⟩
    exact ⟨⟨_, found, rfl⟩, a, ⟨among, d.opposite, mem_ends ends.symm, _, found, kind, rfl⟩, ends⟩

/-- The class at the far end of a member has the opposite member, and each calls back the other one. -/
theorem opposite_member (known : owner ∈ m.everyClass) {d : AssociationMember}
    (member : d ∈ m.associationMembers owner) (otherKnown : other ∈ m.everyClass) {t : Target}
    (leads : d.target = some t) (same : t.key = other.key) :
    d.isBidirectional = true ∧
      (⟨other, d.opposite, d.far⟩ : AssociationMember) ∈ m.associationMembers other ∧
      (⟨other, d.opposite, d.far⟩ : AssociationMember).isBidirectional = true := by
  obtain ⟨there, kind⟩ := Linked.mem_everyClass.1 known
  obtain ⟨otherThere, otherKind⟩ := Linked.mem_everyClass.1 otherKnown
  obtain ⟨_, typed, found, a, among, ends⟩ := (rooted.mem_associationMembers known).1 member
  obtain rfl := rooted.told a among d.far (mem_ends ends) t leads other otherThere same
  refine ⟨?_, ?_, ?_⟩
  · simp [AssociationMember.isBidirectional, leads, Classifier.target, otherKind]
  · refine (rooted.mem_associationMembers otherKnown).2 ⟨rfl, ?_, leads, a, among, ends.symm⟩
    simp [AssociationMember.target, found]
  · simp [AssociationMember.isBidirectional, AssociationMember.target, found, Classifier.target, kind]

end Linked.IsRooted

/-! ## Models without errors -/

/-- Whether the check of a model finds no error. -/
def Linked.IsValid (m : Linked) : Prop := ∀ d ∈ m.diagnostics true, d.isError = false

instance (m : Linked) : Decidable m.IsValid :=
  inferInstanceAs (Decidable (∀ d ∈ m.diagnostics true, d.isError = false))

namespace Linked.IsValid

open Validation

variable (valid : m.IsValid)
include valid

/-- There are no errors among the findings about the structure of a valid model. -/
theorem structureFindings : NoErrors (Validation.structureFindings m) :=
  fun d found => valid d (List.mem_append_left _ found)

/-- The members of a class of the packages have different names. -/
theorem names_nodup (isClass : owner ∈ m.classes) :
    ((m.associationMembers owner).map (·.name)).Nodup := by
  have members := (noErrors_append.1 valid.structureFindings).2
  exact ((noErrors_memberClashes owner).1 (noErrors_flatMap.1 members owner isClass)).1

/-- The ends of an association have different names. -/
theorem end_names_nodup (among : a ∈ m.associations) : (a.ends.map (·.name)).Nodup := by
  obtain ⟨p, held, there⟩ := List.mem_flatMap.1 (List.mem_filter.1 among).1
  have names : NoErrors (duplicateNames m.model) := by
    have structural := valid.structureFindings
    simp only [Validation.structureFindings, noErrors_append] at structural
    exact structural.1.1.1.1.2
  have inPackage := ((noErrors_duplicateNames m.model).1 names).2 p held
  have inType := ((noErrors_packageDuplicates p).1 inPackage).2.2 a there
  exact ((noErrors_typeDuplicates a).1 inType).2.2.1

end Linked.IsValid

end ClassDiagram
