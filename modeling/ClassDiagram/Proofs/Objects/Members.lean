import ClassDiagram.Objects.Creation
import ClassDiagram.Proofs.Objects.Paired
import Mathlib.Data.List.Induction
import Mathlib.Data.List.Nodup

/-!
# The slots of a class

An object of a class has one slot for each name among the members of its class.  The slot is that of a
member with the name, and of the only one where no two members share a name.
-/

set_option autoImplicit false

namespace ClassDiagram

/-- A member calls back to unlink as it does to link. -/
theorem AssociationMember.onAttach_of_isBidirectional {m : AssociationMember}
    (calls : m.isBidirectional = true) :
    m.onAttach = some (.linking m.opposite.name m.opposite.isList) := by
  rw [onAttach, if_pos calls]
  rfl

/-- A member with an opposite end calls it to unlink an object that goes. -/
theorem AssociationMember.onDetach_of_isBidirectional {m : AssociationMember}
    (calls : m.isBidirectional = true) :
    m.onDetach = some (.unlinking m.opposite.name m.opposite.isList) := by
  rw [onDetach, if_pos calls, PartnerCall.unlinking]
  split <;> rfl

/-- A member whose values are no objects of classes makes no calls. -/
theorem AssociationMember.calls_of_not_isBidirectional {m : AssociationMember}
    (silent : m.isBidirectional = false) : m.onAttach = none ∧ m.onDetach = none := by
  simp [onAttach, onDetach, silent]

namespace Objects

variable {members : List AssociationMember} {s : Slot}

/-! ## Slots by name -/

/-- A slot among those with one more is the new one or one from before. -/
theorem mem_of_mem_putSlot {slot : Slot} {slots : List Slot} (there : s ∈ putSlot slot slots) :
    s = slot ∨ s ∈ slots := by
  induction slots with
  | nil => exact .inl (by simpa [putSlot] using there)
  | cons t rest ih =>
    rw [putSlot] at there
    split at there
    · rcases List.mem_cons.1 there with same | below
      · exact .inl same
      · exact .inr (List.mem_cons_of_mem t below)
    · rcases List.mem_cons.1 there with same | below
      · exact .inr (same ▸ List.mem_cons_self)
      · exact (ih below).imp_right (List.mem_cons_of_mem t)

/-- A slot that is put among others adds its name unless there is one of the name. -/
theorem names_putSlot (slot : Slot) (slots : List Slot) :
    (putSlot slot slots).map (·.name) =
      if slot.name ∈ slots.map (·.name) then slots.map (·.name)
      else slots.map (·.name) ++ [slot.name] := by
  induction slots with
  | nil => simp [putSlot]
  | cons t rest ih =>
    by_cases same : t.name = slot.name
    · simp [putSlot, same]
    · have other : ¬ slot.name = t.name := fun e => same e.symm
      have among : slot.name ∈ (t :: rest).map (·.name) ↔ slot.name ∈ rest.map (·.name) := by
        simp [other]
      rw [putSlot, if_neg same, List.map_cons, ih]
      simp only [among]
      split <;> simp

/-- A slot with a name of its own comes last. -/
theorem putSlot_of_new {slot : Slot} {slots : List Slot} (new : slot.name ∉ slots.map (·.name)) :
    putSlot slot slots = slots ++ [slot] := by
  induction slots with
  | nil => rfl
  | cons t rest ih =>
    rw [List.map_cons, List.mem_cons, not_or] at new
    rw [putSlot, if_neg fun e => new.1 e.symm, ih new.2, List.cons_append]

/-- The slot of the last member is put among the slots of the members before. -/
theorem slotsOf_append (members : List AssociationMember) (m : AssociationMember) :
    slotsOf (members ++ [m]) = putSlot (Slot.ofMember m) (slotsOf members) := by
  simp [slotsOf]

/-- No two slots of an object have one name. -/
theorem names_slotsOf (members : List AssociationMember) :
    ((slotsOf members).map (·.name)).Nodup := by
  induction members using List.reverseRecOn with
  | nil => exact List.nodup_nil
  | append_singleton members m ih =>
    rw [slotsOf_append, names_putSlot]
    split
    · exact ih
    · next new => exact ih.append (List.nodup_singleton _) (by simpa using new)

/-- A slot of an object is the empty slot of one of its members. -/
theorem mem_slotsOf (there : s ∈ slotsOf members) : ∃ m ∈ members, s = Slot.ofMember m := by
  induction members using List.reverseRecOn with
  | nil => simp [slotsOf] at there
  | append_singleton members m ih =>
    rw [slotsOf_append] at there
    rcases mem_of_mem_putSlot there with same | before
    · exact ⟨m, by simp, same⟩
    · obtain ⟨m', among, same⟩ := ih before
      exact ⟨m', List.mem_append_left _ among, same⟩

/-- Members with different names have a slot each. -/
theorem slotsOf_of_nodup (names : (members.map (·.name)).Nodup) :
    slotsOf members = members.map Slot.ofMember := by
  induction members using List.reverseRecOn with
  | nil => rfl
  | append_singleton members m ih =>
    rw [List.map_append, List.nodup_append] at names
    have before := ih names.1
    have new : (Slot.ofMember m).name ∉ (slotsOf members).map (·.name) := by
      rw [before, List.map_map]
      intro there
      exact names.2.2 m.name (by simpa [Slot.ofMember] using there) m.name (by simp) rfl
    rw [slotsOf_append, putSlot_of_new new, before, List.map_append, List.map_cons, List.map_nil]

/-- The slot of a member is empty. -/
theorem Slot.emptied_ofMember (m : AssociationMember) : (Slot.ofMember m).emptied = Slot.ofMember m := by
  simp only [Slot.ofMember, Slot.emptied]
  split <;> rfl

/-- The slot of a member is for a list exactly if the member is. -/
theorem Slot.isList_ofMember (m : AssociationMember) :
    (Slot.ofMember m).holding.isList = m.isList := by
  cases kind : m.isList <;> simp [Slot.ofMember, kind, Holding.isList]

/-! ## New objects -/

namespace Heap

/-- The slots of a heap with a new object: the new ones are empty. -/
theorem slot?_add (h : Heap) (name : String) (members : List AssociationMember) (y : Nat) (r : String) :
    (h.add name members).slot? y r =
      if y = h.objects.length then (slotsOf members).find? (·.name == r) else h.slot? y r := by
  simp only [Heap.slot?, Heap.object?, Heap.add]
  split
  · next last =>
    subst last
    simp [Object.slot?]
  · next other =>
    rcases Nat.lt_or_gt_of_ne other with before | after
    · rw [List.getElem?_append_left before]
    · rw [List.getElem?_eq_none (by simp; omega), List.getElem?_eq_none (by omega)]

/-- A new object changes nothing that any object holds. -/
theorem values_add (h : Heap) (name : String) (members : List AssociationMember) (y : Nat) (r : String) :
    (h.add name members).values y r = h.values y r := by
  simp only [Heap.values, Heap.holding?, slot?_add]
  split
  · next last =>
    have absent : h.slot? y r = none := by
      simp [Heap.slot?, Heap.object?, last]
    cases found : (slotsOf members).find? (·.name == r) with
    | none => rw [absent]
    | some s =>
      obtain ⟨d, _, rfl⟩ := mem_slotsOf (List.mem_of_find?_eq_some found)
      simp only [absent, Option.map_some, Option.map_none, Option.elim_some, Option.elim_none,
        Slot.ofMember]
      split <;> rfl
  · rfl

/-- A slot is found as before once there is a new object. -/
theorem slot?_add_of_some {h : Heap} {x : Nat} {r : String} {s : Slot} (found : h.slot? x r = some s)
    (name : String) (members : List AssociationMember) :
    (h.add name members).slot? x r = some s := by
  rw [slot?_add, if_neg (Nat.ne_of_lt (lt_of_slot? found)), found]

/-- Two slots for the ends of an association stay so once there is a new object. -/
theorem Dual.add {h : Heap} {x y : Nat} {r o : String} (dual : h.Dual x r y o) (name : String)
    (members : List AssociationMember) : (h.add name members).Dual x r y o := by
  obtain ⟨s, t, hs, ht, first, second⟩ := dual.faces
  exact ⟨dual.distinct, s, t, slot?_add_of_some hs name members, slot?_add_of_some ht name members,
    first, second⟩

/-- A new object keeps a heap paired. -/
theorem Paired.add {h : Heap} (paired : h.Paired) (name : String) (members : List AssociationMember) :
    (h.add name members).Paired := by
  refine ⟨fun y r => by rw [values_add]; exact paired.nodup y r, ?_⟩
  intro y r s o b v found faces held
  rw [values_add] at held
  obtain ⟨s', found'⟩ := slot?_of_mem_values held
  obtain rfl : s' = s := Option.some.inj ((slot?_add_of_some found' name members).symm.trans found)
  obtain ⟨dual, back⟩ := paired.both found' faces held
  exact ⟨dual.add name members, by rwa [values_add]⟩

end Heap

/-! ## Objects of a class -/

/-- Whether an object has the slots of a class, with any contents. -/
structure Object.IsOf (m : Linked) (owner : LinkedType) (o : Object) : Prop where
  className : o.className = owner.name
  slots : o.slots.map Slot.emptied = slotsOf (m.associationMembers owner)

variable {m : Linked} {owner : LinkedType} {o : Object}

/-- The slots of an object of a class have different names. -/
theorem Object.IsOf.names (isOf : o.IsOf m owner) : (o.slots.map (·.name)).Nodup := by
  have names := names_slotsOf (m.associationMembers owner)
  rw [← isOf.slots, List.map_map] at names
  exact names

/-- A slot of an object is that of a member of its class. -/
theorem Object.IsOf.member_of_mem (isOf : o.IsOf m owner) (there : s ∈ o.slots) :
    ∃ d ∈ m.associationMembers owner, s.emptied = Slot.ofMember d :=
  mem_slotsOf (isOf.slots ▸ List.mem_map_of_mem there)

/-- The slots of a new object are those of the members of its class. -/
theorem shape_slotsOf (names : ((m.associationMembers owner).map (·.name)).Nodup) (r : String) :
    ((slotsOf (m.associationMembers owner)).find? (·.name == r)).map Slot.emptied =
      ((m.associationMembers owner).find? (·.name == r)).map Slot.ofMember := by
  rw [slotsOf_of_nodup names, List.find?_map, Option.map_map]
  exact Option.map_congr fun d _ => Slot.emptied_ofMember d

/-- A model with a class of teams and a class of players, who play in one team each. -/
def club : Declared :=
  ⟨[⟨(), "club", [],
    [⟨(), "Team", .classBody ⟨false, [], [], [], []⟩⟩,
      ⟨(), "Player", .classBody ⟨false, [], [], [], []⟩⟩,
      ⟨(), "plays", .association
        [⟨(), "team", some "Team", .number 0, .number 1, none, false, .plain⟩,
          ⟨(), "players", some "Player", .number 0, .unbounded, none, false, .plain⟩]⟩]⟩]⟩

end Objects

end ClassDiagram
