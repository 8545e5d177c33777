import ClassDiagram.Proofs.Java.Interpretation
import ClassDiagram.Proofs.Objects.Updates
import Mathlib.Data.List.Nodup

/-!
# Which method a call runs

Accessors of different kinds have different names, since none of the verbs begins with the first letters of
another one.  So a call runs the accessor of its kind of the member that it is meant for, as long as no two
members of the class have the same accessor names (`find?_methodsOf`).
-/

set_option autoImplicit false

namespace ClassDiagram

/-! ## Names of accessors -/

/-- The name of an accessor tells its kind, and its member up to the first letter. -/
theorem AccessorKind.method_inj {kind kind' : AccessorKind} {r r' : String}
    (same : kind.method r = kind'.method r') : kind = kind' ∧ capitalized r = capitalized r' := by
  have begins (kind : AccessorKind) (r : String) :
      (kind.method r).toList.take 2 = kind.verb.toList.take 2 := by
    rw [method, String.toList_append, List.take_append_of_le_length (by cases kind <;> decide)]
  have apart : ∀ a b : AccessorKind, a.verb.toList.take 2 = b.verb.toList.take 2 → a = b := by
    intro a b
    cases a <;> cases b <;> decide
  obtain rfl : kind = kind' := by
    refine apart kind kind' ?_
    rw [← begins kind r, ← begins kind' r', same]
  refine ⟨rfl, ?_⟩
  have chars := congrArg String.toList same
  rw [method, method, String.toList_append, String.toList_append] at chars
  exact String.toList_inj.1 (List.append_cancel_left chars)

namespace Java

variable {table : TypeTable} {members : List AssociationMember} {d d' : AssociationMember}
  {kind : AccessorKind}

/-! ## Accessors that change a member -/

/-- The statements of the accessor of a kind. -/
def changeBody (kind : AccessorKind) (type : String) (d : AssociationMember) : List Statement :=
  match kind with
  | .set => setterBody type d
  | .addTo => adderBody d
  | .removeFrom => removerBody d
  | .get => []
  | .sizeOf => []

/-- The parameter of the accessor of a kind. -/
def changeParameter : AccessorKind → Operand
  | .removeFrom => .oldValue
  | _ => .newValue

/-- The accessor of a kind for values of a type. -/
def changeAccessor (kind : AccessorKind) (type : String) (d : AssociationMember) : Accessor :=
  ⟨voidType, d.methodFor kind, some (type, changeParameter kind), changeBody kind type d⟩

/-- A member has the accessors that change a member of its sort. -/
theorem changeAccessor_mem (fits : kind.fits d.isList = true) (type list element : String) :
    changeAccessor kind (if d.isList then element else type) d ∈
      if d.isList then collectionAccessors list element d else singleAccessors type d := by
  cases isList : d.isList with
  | true =>
    rw [isList] at fits
    rw [if_pos rfl, if_pos rfl]
    cases kind with
    | addTo => exact .tail _ (.tail _ (.head _))
    | removeFrom => exact .tail _ (.tail _ (.tail _ (.head _)))
    | _ => cases fits
  | false =>
    rw [isList] at fits
    rw [if_neg Bool.false_ne_true, if_neg Bool.false_ne_true]
    cases kind with
    | set => exact .tail _ (.head _)
    | _ => cases fits

/-- Whether an accessor is the one of a kind that changes a member. -/
structure Accessor.Changes (a : Accessor) (kind : AccessorKind) (d : AssociationMember) : Prop where
  fits : kind.fits d.isList = true
  same : ∃ type, a = changeAccessor kind type d

/-- An accessor that changes a member is named for it. -/
theorem Accessor.Changes.name {a : Accessor} (changes : a.Changes kind d) : a.name = d.methodFor kind := by
  obtain ⟨type, rfl⟩ := changes.same
  rfl

/-- The accessors of a member are those of a list or of one value. -/
theorem memberAccessors_cases {accessors : List Accessor} (emitted : memberAccessors table d = .ok accessors) :
    ∃ type element, accessors = if d.isList then collectionAccessors type element d
      else singleAccessors type d := by
  unfold memberAccessors at emitted
  cases type : typeOfMember table d with
  | error e =>
    rw [type] at emitted
    cases emitted
  | ok type' =>
    cases element : elementType table d with
    | error e =>
      rw [type, element] at emitted
      cases emitted
    | ok element' =>
      rw [type, element] at emitted
      exact ⟨type', element', (Except.ok.inj emitted).symm⟩

/-- An accessor with the name of one that changes a member is one that changes a member. -/
theorem changes_of_name {accessors : List Accessor} (emitted : memberAccessors table d' = .ok accessors)
    {a : Accessor} (among : a ∈ accessors) (named : a.name = d.methodFor kind)
    (fits : kind.fits d.isList = true) : a.Changes kind d' := by
  obtain ⟨type, element, rfl⟩ := memberAccessors_cases emitted
  have kinds (other : AccessorKind) (name : a.name = d'.methodFor other) : kind = other :=
    (AccessorKind.method_inj (named.symm.trans name)).1
  split at among
  · next isList =>
    simp only [collectionAccessors, List.mem_cons, List.not_mem_nil, or_false] at among
    rcases among with rfl | rfl | rfl | rfl
    · obtain rfl := kinds .get rfl
      cases fits
    · obtain rfl := kinds .sizeOf rfl
      cases fits
    · obtain rfl := kinds .addTo rfl
      exact ⟨isList, element, rfl⟩
    · obtain rfl := kinds .removeFrom rfl
      exact ⟨isList, element, rfl⟩
  · next isSingle =>
    simp only [singleAccessors, List.mem_cons, List.not_mem_nil, or_false] at among
    rcases among with rfl | rfl
    · obtain rfl := kinds .get rfl
      cases fits
    · obtain rfl := kinds .set rfl
      exact ⟨by simpa [AccessorKind.fits] using isSingle, type, rfl⟩

/-- The method that the accessor of a kind is read as. -/
theorem meaning_changeAccessor (kind : AccessorKind) (field type : String) (d : AssociationMember) :
    (changeAccessor kind type d).meaning field =
      ⟨d.methodFor kind, some (changeParameter kind).word, meanings field (changeBody kind type d)⟩ :=
  rfl

/-! ## Methods by name -/

/-- The names of the accessors of a member. -/
def accessorNames (d : AssociationMember) : List String :=
  (if d.isList then [AccessorKind.get, .sizeOf, .addTo, .removeFrom] else [.get, .set]).map d.methodFor

/-- Whether no two members have the same accessor names.  Members of one name would, whatever they are for. -/
def HasOwnAccessors (members : List AssociationMember) : Prop :=
  (members.map (·.name)).Nodup ∧ (members.map accessorNames).Nodup

instance (members : List AssociationMember) : Decidable (HasOwnAccessors members) :=
  inferInstanceAs (Decidable (_ ∧ _))

/-- The accessors that are written for a member have its accessor names. -/
theorem map_name_of_emitted {accessors : List Accessor} (emitted : memberAccessors table d = .ok accessors) :
    accessors.map (·.name) = accessorNames d := by
  obtain ⟨type, element, rfl⟩ := memberAccessors_cases emitted
  unfold accessorNames
  split <;> rfl

/-- Members with an accessor that changes them in common have all of them in common. -/
theorem accessorNames_eq (fits : kind.fits d.isList = true) (fits' : kind.fits d'.isList = true)
    (same : d.methodFor kind = d'.methodFor kind) : accessorNames d = accessorNames d' := by
  have capital : capitalized d.name = capitalized d'.name := (AccessorKind.method_inj same).2
  have isList : d.isList = d'.isList := by
    revert fits fits'
    cases d.isList <;> cases d'.isList <;> cases kind <;> decide
  have method (other : AccessorKind) : d.methodFor other = d'.methodFor other := by
    rw [AssociationMember.methodFor, AssociationMember.methodFor, AccessorKind.method, AccessorKind.method,
      capital]
  rw [accessorNames, accessorNames, isList]
  exact List.map_congr_left fun other _ => method other

/-- Whether the accessors of members can be written. -/
def AreEmitted (table : TypeTable) (members : List AssociationMember) : Prop :=
  ∀ d ∈ members, (memberAccessors table d).isOk = true

instance (table : TypeTable) (members : List AssociationMember) : Decidable (AreEmitted table members) :=
  inferInstanceAs (Decidable (∀ d ∈ members, _))

/-- Every member of a class that can be written has accessors. -/
theorem AreEmitted.exists_accessors (emitted : AreEmitted table members) (member : d ∈ members) :
    ∃ accessors, memberAccessors table d = .ok accessors := by
  have given := emitted d member
  cases written : memberAccessors table d with
  | ok accessors => exact ⟨accessors, rfl⟩
  | error e =>
    rw [written] at given
    cases given

/-- The accessors of any members can be written where every name of a primitive type can. -/
theorem areEmitted (texts : ∀ name, (table.nameFor (.text name)).display?.isSome = true)
    (members : List AssociationMember) : AreEmitted table members := by
  intro d _
  have written : (table.nameOfTarget d.target).display?.isSome = true := by
    unfold TypeTable.nameOfTarget
    split
    · rfl
    · split
      · exact texts _
      · rfl
  obtain ⟨text, shown⟩ := Option.isSome_iff_exists.1 written
  have element : lineText (table.nameOfTarget d.target) = .ok text := by
    unfold lineText
    rw [shown]
    rfl
  unfold memberAccessors typeOfMember elementType listType
  rw [element]
  cases d.isList <;> rfl

/-- The methods of members are what their accessors mean. -/
theorem mem_methodsOf (emitted : AreEmitted table members) {method : Method} :
    method ∈ methodsOf table members ↔ ∃ d ∈ members, ∃ accessors, memberAccessors table d = .ok accessors ∧
      ∃ a ∈ accessors, a.meaning d.name = method := by
  rw [methodsOf, List.mem_flatMap]
  refine exists_congr fun d => and_congr_right fun member => ?_
  obtain ⟨accessors, given⟩ := emitted.exists_accessors member
  rw [methodsOfMember, given]
  constructor
  · intro there
    exact ⟨accessors, rfl, List.mem_map.1 there⟩
  · rintro ⟨_, ⟨⟩, among⟩
    exact List.mem_map.2 among

/-- A call of an accessor that changes a member runs this accessor. -/
theorem find?_methodsOf (emitted : AreEmitted table members) (own : HasOwnAccessors members) (member : d ∈ members)
    (fits : kind.fits d.isList = true) : ∃ type,
      (methodsOf table members).find? (·.name == d.methodFor kind) = some ((changeAccessor kind type d).meaning d.name) := by
  obtain ⟨accessors, given⟩ := emitted.exists_accessors member
  obtain ⟨type, element, written⟩ := memberAccessors_cases given
  have listed : (changeAccessor kind (if d.isList then element else type) d).meaning d.name ∈
      methodsOf table members := by
    refine (mem_methodsOf emitted).2 ⟨d, member, accessors, given, _, ?_, rfl⟩
    rw [written]
    exact changeAccessor_mem fits type type element
  obtain ⟨method, found⟩ : ∃ method, (methodsOf table members).find? (·.name == d.methodFor kind) = some method :=
    Option.isSome_iff_exists.1 (List.find?_isSome.2 ⟨_, listed, beq_self_eq_true _⟩)
  have named : method.name = d.methodFor kind := by simpa using List.find?_some found
  obtain ⟨d', member', accessors', given', a, among', rfl⟩ :=
    (mem_methodsOf emitted).1 (List.mem_of_find?_eq_some found)
  have changes := changes_of_name given' among' named fits
  -- The method may be any one with the name, so its member has to be the one that is meant.
  obtain rfl : d' = d := List.inj_on_of_nodup_map own.2 member' member
    (accessorNames_eq changes.fits fits (changes.name.symm.trans named))
  obtain ⟨type', rfl⟩ := changes.same
  exact ⟨type', found⟩

end Java

end ClassDiagram
