import ClassDiagram.Proofs.Objects.Settling

/-!
# What calls do to links

The heap that a call from outside leaves on a member with an opposite end (`linkedBy`), and what it means
for the links: which there are after the call (`mem_values_linkedBy`), that they are held on both sides
again (`Paired.linkedBy`), and that no other slot was written (`holding?_linkedBy`).
-/

set_option autoImplicit false

namespace ClassDiagram

/-- Whether an accessor changes a member that is for a list or for a single object. -/
def AccessorKind.fits (isList : Bool) : AccessorKind → Bool
  | set => !isList
  | addTo => isList
  | removeFrom => isList
  | get => false
  | sizeOf => false

namespace Objects

/-- The links of a role after a call, given those before, where `links p q` says that the object `p` has
`q` in the role.  A role is exclusive if its objects are in one link each. -/
def Call.after (c : Call) (isExclusive : Bool) (links : Nat → Nat → Prop) (p q : Nat) : Prop :=
  match c.kind, c.argument with
  | .set, none => links p q ∧ p ≠ c.receiver
  | .set, some v =>
    links p q ∧ p ≠ c.receiver ∧ ¬ (isExclusive = true ∧ q = v) ∨ p = c.receiver ∧ q = v
  | .addTo, some v => links p q ∧ ¬ (isExclusive = true ∧ q = v) ∨ p = c.receiver ∧ q = v
  | .removeFrom, some v => links p q ∧ ¬ (p = c.receiver ∧ q = v)
  | _, _ => links p q

/-- Whether a call finds nothing to change. -/
def Call.IsIdle (c : Call) (h : Heap) : Prop :=
  match c.kind with
  | .set => h.values c.receiver c.role = c.argument.toList
  | .addTo => ∀ v ∈ c.argument, v ∈ h.values c.receiver c.role
  | .removeFrom => ∀ v ∈ c.argument, v ∉ h.values c.receiver c.role
  | _ => True

/-- The links after a call depend on those before only where they are looked at. -/
theorem Call.after_congr {c : Call} {isExclusive : Bool} {links links' : Nat → Nat → Prop} {p q : Nat}
    (same : links p q ↔ links' p q) : c.after isExclusive links p q ↔ c.after isExclusive links' p q := by
  unfold Call.after
  split <;> simp only [same]

namespace Heap

/-- The heap after a call on a member with an opposite end, entries aside. -/
def linkedBy (h : Heap) (c : Call) (o : String) : Heap :=
  match c.kind, c.argument with
  | .set, none => h.evict c.receiver c.role o
  | .set, some v =>
    if v ∈ h.values c.receiver c.role then h
    else ((h.evict c.receiver c.role o).evict v o c.role).join c.receiver c.role v o
  | .addTo, some v =>
    if v ∈ h.values c.receiver c.role then h
    else (h.evict v o c.role).join c.receiver c.role v o
  | .removeFrom, some v =>
    if v ∈ h.values c.receiver c.role then h.part c.receiver c.role v o else h
  | _, _ => h

/-- Whether the slot of an object calls back a role. -/
def Calls (h : Heap) (x : Nat) (r o : String) : Prop := ∃ s b, h.slot? x r = some s ∧ s.Faces o b

/-- Whether the slot of an object is for a single object. -/
def IsSingle (h : Heap) (x : Nat) (r : String) : Prop := ∃ value, h.holding? x r = some (.one value)

variable {h : Heap} {x y p q v : Nat} {r o role : String} {c : Call} {s : Slot}

/-- A slot for one of two ends of an association calls back the other end. -/
theorem Dual.calls (dual : h.Dual x r y o) : h.Calls x r o := by
  obtain ⟨s, t, hs, _, faces, _⟩ := dual.faces
  exact ⟨s, _, hs, faces⟩

/-- A slot calls back the same role in every heap with slots of the same shapes. -/
theorem Calls.of_shape {h' : Heap} (calls : h.Calls x r o)
    (keeps : ∀ y o, h'.shape? y o = h.shape? y o) : h'.Calls x r o := by
  obtain ⟨s, b, found, faces⟩ := calls
  obtain ⟨s', found', same⟩ := slot?_of_shape keeps found
  exact ⟨s', b, found', faces.of_emptied same.symm⟩

/-- An object in a slot that calls back has the opposite slot. -/
theorem Paired.dual (paired : h.Paired) (calls : h.Calls x r o) (held : v ∈ h.values x r) :
    h.Dual x r v o := by
  obtain ⟨s, b, found, faces⟩ := calls
  exact (paired.both found faces held).1

/-- An object in a slot that calls back holds the object of the slot. -/
theorem Paired.back (paired : h.Paired) (calls : h.Calls x r o) (held : v ∈ h.values x r) :
    x ∈ h.values v o :=
  paired.mem_symm (paired.dual calls held) held

/-- A role is for a single object exactly if its slot is not for a list. -/
theorem isSingle_of_slot (found : h.slot? x r = some s) :
    h.IsSingle x r ↔ s.holding.isList = false := by
  rw [IsSingle, holding?_of_slot found]
  cases s.holding <;> simp [Holding.isList]

/-- A role is for a single object in every heap with slots of the same shapes. -/
theorem IsSingle.of_shape {h' : Heap} (keeps : ∀ y o, h'.shape? y o = h.shape? y o) :
    h'.IsSingle x r ↔ h.IsSingle x r := by
  cases found : h.slot? x r with
  | none =>
    have gone : h'.slot? x r = none := by simpa [shape?, found] using keeps x r
    simp [IsSingle, holding?, found, gone]
  | some s =>
    obtain ⟨s', found', same⟩ := slot?_of_shape keeps found
    rw [isSingle_of_slot found, isSingle_of_slot found', Slot.isList_of_emptied same]

/-- A role for a single object has one object at most. -/
theorem IsSingle.eq (single : h.IsSingle x r) (first : p ∈ h.values x r) (second : q ∈ h.values x r) :
    p = q := by
  obtain ⟨value, held⟩ := single
  simp only [values, held, Option.elim_some, Holding.values, Option.mem_toList] at first second
  exact Option.some.inj (first.symm.trans second)

/-! ## Giving up a link -/

/-- A link that ended is gone, and the others are there. -/
theorem Paired.mem_part (paired : h.Paired) (dual : h.Dual x r y o) :
    q ∈ (h.part x r y o).values p r ↔ q ∈ h.values p r ∧ ¬ (p = x ∧ q = y) := by
  rw [values_part dual.slot_ne]
  by_cases here : p = x
  · rw [if_pos ⟨here, rfl⟩, (paired.nodup p r).mem_erase_iff]
    simp [here, and_comm]
  · rw [if_neg fun same => here same.1, if_neg fun same => dual.distinct same.2]
    simp [here]

/-- A slot for a single object holds nothing after its link was given up. -/
theorem Paired.mem_evict (paired : h.Paired) (calls : h.Calls x r o) :
    q ∈ (h.evict x r o).values p r ↔ q ∈ h.values p r ∧ ¬ (p = x ∧ h.IsSingle x r) := by
  unfold Heap.evict
  split
  · next old held =>
    have single : h.IsSingle x r := ⟨_, held⟩
    have there : old ∈ h.values x r := by simp [values, held, Holding.values]
    rw [paired.mem_part (paired.dual calls there)]
    refine and_congr_right fun linked => not_congr (and_congr_right ?_)
    rintro rfl
    exact ⟨fun _ => single, fun _ => single.eq linked there⟩
  · next none =>
    refine ⟨fun held => ⟨held, ?_⟩, And.left⟩
    rintro ⟨rfl, value, single⟩
    cases value with
    | none => simp [values, single, Holding.values] at held
    | some old => exact none old single

/-- An object is in no link that its single slot gave up. -/
theorem Paired.mem_evict_far (paired : h.Paired) (dual : h.Dual x r y o) (calls : h.Calls p r o) :
    q ∈ (h.evict y o r).values p r ↔ q ∈ h.values p r ∧ ¬ (q = y ∧ h.IsSingle y o) := by
  unfold Heap.evict
  split
  · next u held =>
    have single : h.IsSingle y o := ⟨_, held⟩
    have there : u ∈ h.values y o := by simp [values, held, Holding.values]
    have link := paired.dual_of_mem dual.symm there
    rw [part_comm link.slot_ne, paired.mem_part link.symm]
    refine and_congr_right fun linked => not_congr ⟨fun same => ⟨same.2, single⟩, ?_⟩
    rintro ⟨rfl, _⟩
    exact ⟨single.eq (paired.back calls linked) there, rfl⟩
  · next none =>
    refine ⟨fun held => ⟨held, ?_⟩, And.left⟩
    rintro ⟨rfl, value, single⟩
    have back := paired.back calls held
    cases value with
    | none => simp [values, single, Holding.values] at back
    | some u => exact none u single

/-- A slot that is vacated has room. -/
theorem hasRoom_evict (dual : h.Dual x r y o) (paired : h.Paired) : (h.evict x r o).HasRoom x r := by
  unfold evict
  split
  · next old held =>
    have link := paired.dual_of_mem (v := old) dual (by simp [values, held, Holding.values])
    intro k there
    rw [part, holding?_adjust, if_neg link.slot_ne, holding?_adjust, if_pos ⟨rfl, rfl⟩, held] at there
    obtain rfl : Holding.without old (.one (some old)) = k := Option.some.inj there
    simp [Holding.without, Holding.HasRoom]
  · next none =>
    intro k there
    cases k with
    | one value =>
      cases value with
      | none => rfl
      | some old => exact absurd there (none old)
    | many values => trivial

/-- A slot with room still has room once another one is vacated. -/
theorem HasRoom.evict (room : h.HasRoom p role) : (h.evict x r o).HasRoom p role := by
  unfold Heap.evict
  split
  · exact room.part
  · exact room

/-- After a slot was vacated, slots hold what they held before or less. -/
theorem mem_values_of_evict (distinct : r ≠ o) (held : v ∈ (h.evict x r o).values p role) :
    v ∈ h.values p role := by
  unfold evict at held
  split at held
  · exact mem_values_of_part (fun same => distinct same.2) held
  · exact held

/-- The slots that give up a link are that of the object and those of the objects in it. -/
theorem holding?_evict {touched : Nat → String → Prop} (self : touched x r)
    (olds : ∀ old ∈ h.values x r, touched old o) (apart : ¬ touched p role) :
    (h.evict x r o).holding? p role = h.holding? p role := by
  unfold evict
  split
  · next old held =>
    have there : old ∈ h.values x r := by simp [values, held, Holding.values]
    rw [part, holding?_adjust, if_neg, holding?_adjust, if_neg]
    · rintro ⟨rfl, rfl⟩
      exact apart self
    · rintro ⟨rfl, rfl⟩
      exact apart (olds p there)
  · rfl

/-- A link that starts adds the two objects to the links of a role, and nothing else. -/
theorem mem_values_join (dual : h.Dual x r y o) (roomX : h.HasRoom x r) (roomY : h.HasRoom y o) :
    q ∈ (h.join x r y o).values p r ↔ q ∈ h.values p r ∨ p = x ∧ q = y := by
  obtain ⟨s, t, hs, ht, _, _⟩ := dual.faces
  have away : ¬ (p = y ∧ r = o) := fun same => dual.distinct same.2
  rw [values_join dual.slot_ne roomX roomY (by simp [hs]) (by simp [ht]), if_neg away]
  by_cases here : p = x <;> simp [here]

/-! ## The heap after a call -/

/-- A call on a member with an opposite end leaves the shapes of all slots. -/
@[simp] theorem shape?_linkedBy (h : Heap) (c : Call) (o : String) (p : Nat) (role : String) :
    (h.linkedBy c o).shape? p role = h.shape? p role := by
  unfold linkedBy
  split
  · simp
  · split <;> simp
  · split <;> simp
  · split <;> simp
  · rfl

/-- A call that finds nothing to change leaves a heap as it was. -/
theorem linkedBy_of_idle (idle : c.IsIdle h) : h.linkedBy c o = h := by
  unfold Call.IsIdle at idle
  unfold linkedBy
  split
  · next kind given =>
    simp only [kind, given, Option.toList_none] at idle
    unfold evict
    split
    · next old held => simp [values, held, Holding.values] at idle
    · rfl
  · next v kind given =>
    simp only [kind, given, Option.toList_some] at idle
    rw [if_pos (by simp [idle])]
  · next v kind given =>
    simp only [kind, given] at idle
    rw [if_pos (idle v rfl)]
  · next v kind given =>
    simp only [kind, given] at idle
    rw [if_neg (idle v rfl)]
  · rfl

/-- A slot that is vacated adds no entry to a trace. -/
theorem traces_evict (h : Heap) (x : Nat) (r o : String) : (h.evict x r o).traces = h.traces := by
  unfold evict
  split
  · simp [part]
  · rfl

/-- The links after a call are made without entries in the traces. -/
theorem traces_linkedBy (h : Heap) (c : Call) (o : String) : (h.linkedBy c o).traces = h.traces := by
  unfold linkedBy
  split
  · exact traces_evict ..
  · split <;> simp [join, traces_evict]
  · split <;> simp [join, traces_evict]
  · split <;> simp [part]
  · rfl

/-- An object that comes to a slot finds room there, after both sides gave up what was in the way. -/
theorem Paired.join_of_set (paired : h.Paired) (dual : h.Dual x r v o) (new : v ∉ h.values x r) :
    (((h.evict x r o).evict v o r).join x r v o).Paired := by
  have first := paired.evict dual
  have dual₁ : (h.evict x r o).Dual x r v o := dual.of_shape (shape?_evict h x r o)
  have dual₂ : ((h.evict x r o).evict v o r).Dual x r v o := dual₁.of_shape (shape?_evict _ v o r)
  refine (first.evict dual₁.symm).join dual₂ (hasRoom_evict dual paired).evict
    (hasRoom_evict dual₁.symm first) fun held => new ?_
  exact mem_values_of_evict dual.distinct (mem_values_of_evict dual.distinct.symm held)

/-- The same for a list, which has room without giving up anything. -/
theorem Paired.join_of_add (paired : h.Paired) (dual : h.Dual x r v o) (list : ¬ h.IsSingle x r)
    (new : v ∉ h.values x r) : ((h.evict v o r).join x r v o).Paired := by
  have dual' : (h.evict v o r).Dual x r v o := dual.of_shape (shape?_evict h v o r)
  have room : h.HasRoom x r := by
    intro k held
    cases k with
    | one value => exact absurd ⟨value, held⟩ list
    | many values => trivial
  refine (paired.evict dual.symm).join dual' room.evict (hasRoom_evict dual.symm paired) fun held =>
    new (mem_values_of_evict dual.distinct.symm held)

/-- Whether a call from outside is on a slot with an opposite end, of its kind, and is for an object with
the opposite slot. -/
structure Admits (h : Heap) (c : Call) (o : String) : Prop where
  distinct : c.role ≠ o
  calls : h.Calls c.receiver c.role o
  fits : ∀ s, h.slot? c.receiver c.role = some s → c.kind.fits s.holding.isList = true
  dual : ∀ v ∈ c.argument, h.Dual c.receiver c.role v o

/-- A call keeps a heap paired. -/
theorem Paired.linkedBy (paired : h.Paired) (admits : h.Admits c o) : (h.linkedBy c o).Paired := by
  obtain ⟨s, b, found, faces⟩ := admits.calls
  have fits := admits.fits s found
  unfold Heap.linkedBy
  split
  · next kind given =>
    cases held : s.holding with
    | one value =>
      cases value with
      | none =>
        have keep : h.evict c.receiver c.role o = h := by
          simp [Heap.evict, holding?_of_slot found, held]
        rwa [keep]
      | some old =>
        have there : old ∈ h.values c.receiver c.role := by
          simp [values_of_slot found, held, Holding.values]
        exact paired.evict (paired.dual admits.calls there)
    | many values => simp [kind, held, AccessorKind.fits, Holding.isList] at fits
  · next v kind given =>
    split
    · exact paired
    · next new => exact paired.join_of_set (admits.dual v given) new
  · next v kind given =>
    split
    · exact paired
    · next new =>
      refine paired.join_of_add (admits.dual v given) ?_ new
      rw [isSingle_of_slot found]
      simpa [kind, AccessorKind.fits] using fits
  · next v kind given =>
    split
    · exact paired.part (admits.dual v given)
    · exact paired
  · exact paired

/-- Where an object is linked already, it is the only one that an exclusive role has. -/
theorem Paired.eq_of_exclusive (paired : h.Paired) (near : h.Calls x r o) (calls : h.Calls p r o)
    (there : v ∈ h.values x r) (held : v ∈ h.values p r) (exclusive : h.IsSingle v o) : p = x :=
  exclusive.eq (paired.back calls held) (paired.back near there)

section Links

variable (paired : h.Paired) (dual : h.Dual x r v o) (calls : h.Calls p r o) {isExclusive : Bool}
  (exclusive : h.IsSingle v o ↔ isExclusive = true)
include paired dual calls exclusive

/-- Where the object is linked already, setting it asks for the links that there are. -/
theorem Paired.mem_values_set_present (single : h.IsSingle x r) (there : v ∈ h.values x r) :
    q ∈ h.values p r ↔
      q ∈ h.values p r ∧ p ≠ x ∧ ¬ (isExclusive = true ∧ q = v) ∨ p = x ∧ q = v := by
  constructor
  · intro held
    by_cases here : p = x
    · subst here
      exact .inr ⟨rfl, single.eq held there⟩
    · refine .inl ⟨held, here, fun same => here ?_⟩
      rw [same.2] at held
      exact paired.eq_of_exclusive dual.calls calls there held (exclusive.2 same.1)
  · rintro (⟨held, _⟩ | ⟨rfl, rfl⟩)
    · exact held
    · exact there

/-- A `set` to another object leaves the links of the role but those of the two objects, and adds theirs. -/
theorem Paired.mem_values_set_new (single : h.IsSingle x r) :
    q ∈ (((h.evict x r o).evict v o r).join x r v o).values p r ↔
      q ∈ h.values p r ∧ p ≠ x ∧ ¬ (isExclusive = true ∧ q = v) ∨ p = x ∧ q = v := by
  -- Between the two links that are given up the heap is paired, and all slots have the shape they had.
  have first := paired.evict dual
  have dual₁ := dual.of_shape (shape?_evict h x r o)
  have calls₁ := calls.of_shape (shape?_evict h x r o)
  have single₁ := IsSingle.of_shape (x := v) (r := o) (shape?_evict h x r o)
  rw [mem_values_join (dual₁.of_shape (shape?_evict _ v o r)) (hasRoom_evict dual paired).evict
    (hasRoom_evict dual₁.symm first), first.mem_evict_far dual₁ calls₁, paired.mem_evict dual.calls,
    single₁, exclusive]
  simp only [single, and_true, and_assoc, and_comm (b := isExclusive = true)]

/-- Where the object is linked already, adding it asks for the links that there are. -/
theorem Paired.mem_values_addTo_present (there : v ∈ h.values x r) :
    q ∈ h.values p r ↔ q ∈ h.values p r ∧ ¬ (isExclusive = true ∧ q = v) ∨ p = x ∧ q = v := by
  constructor
  · intro held
    by_cases here : p = x ∧ q = v
    · exact .inr here
    · refine .inl ⟨held, fun same => here ?_⟩
      rw [same.2] at held
      exact ⟨paired.eq_of_exclusive dual.calls calls there held (exclusive.2 same.1), same.2⟩
  · rintro (⟨held, _⟩ | ⟨rfl, rfl⟩)
    · exact held
    · exact there

/-- An `addTo` of another object leaves the links of the role but one that excludes it, and adds the new one. -/
theorem Paired.mem_values_addTo_new (room : h.HasRoom x r) :
    q ∈ ((h.evict v o r).join x r v o).values p r ↔
      q ∈ h.values p r ∧ ¬ (isExclusive = true ∧ q = v) ∨ p = x ∧ q = v := by
  rw [mem_values_join (dual.of_shape (shape?_evict h v o r)) room.evict
    (hasRoom_evict dual.symm paired), paired.mem_evict_far dual calls, exclusive]
  simp only [and_comm (b := isExclusive = true)]

end Links

/-- The links after a call, of all objects that have the role for the same association. -/
theorem Paired.mem_values_linkedBy (paired : h.Paired) (admits : h.Admits c o)
    {isExclusive : Bool} (exclusive : ∀ v ∈ c.argument, h.IsSingle v o ↔ isExclusive = true)
    (calls : h.Calls p c.role o) :
    q ∈ (h.linkedBy c o).values p c.role ↔
      c.after isExclusive (fun p q => q ∈ h.values p c.role) p q := by
  obtain ⟨s, b, found, faces⟩ := admits.calls
  have fits := admits.fits s found
  have single (kind : c.kind = .set) : h.IsSingle c.receiver c.role := by
    rw [isSingle_of_slot found]
    simpa [kind, AccessorKind.fits] using fits
  unfold Heap.linkedBy Call.after
  split
  · next kind given =>
    rw [paired.mem_evict admits.calls]
    simp only [single kind, and_true]
  · next v kind given =>
    have dual := admits.dual v given
    split
    · next there =>
      exact paired.mem_values_set_present dual calls (exclusive v given) (single kind) there
    · exact paired.mem_values_set_new dual calls (exclusive v given) (single kind)
  · next v kind given =>
    have dual := admits.dual v given
    split
    · next there => exact paired.mem_values_addTo_present dual calls (exclusive v given) there
    · have room : h.HasRoom c.receiver c.role := by
        intro k held
        rw [holding?_of_slot found] at held
        cases k with
        | one value =>
          simp [Option.some.inj held, kind, AccessorKind.fits, Holding.isList] at fits
        | many values => trivial
      exact paired.mem_values_addTo_new dual calls (exclusive v given) room
  · next v kind given =>
    split
    · exact paired.mem_part (admits.dual v given)
    · next absent =>
      refine ⟨fun held => ⟨held, ?_⟩, And.left⟩
      rintro ⟨rfl, rfl⟩
      exact absent held
  · exact Iff.rfl

/-! ## Other slots -/

/-- Only the two objects that a link begins between come to slots. -/
theorem mem_values_of_join (held : v ∈ (h.join x r y o).values p role) :
    v ∈ h.values p role ∨ p = x ∧ role = r ∧ v = y ∨ p = y ∧ role = o ∧ v = x := by
  rcases mem_values_of_including held with before | second
  · exact (mem_values_of_including before).imp_right .inl
  · exact .inr (.inr second)

/-- Only the receiver and the argument of a call come to slots. -/
theorem mem_values_of_linkedBy (admits : h.Admits c o) (held : q ∈ (h.linkedBy c o).values p role) :
    q ∈ h.values p role ∨ p = c.receiver ∧ role = c.role ∧ c.argument = some q ∨
      c.argument = some p ∧ role = o ∧ q = c.receiver := by
  have joined {g : Heap} {v : Nat} (given : c.argument = some v)
      (held : q ∈ (g.join c.receiver c.role v o).values p role) :
      q ∈ g.values p role ∨ p = c.receiver ∧ role = c.role ∧ c.argument = some q ∨
        c.argument = some p ∧ role = o ∧ q = c.receiver := by
    rcases mem_values_of_join held with old | ⟨rfl, rfl, rfl⟩ | ⟨rfl, rfl, rfl⟩
    · exact .inl old
    · exact .inr (.inl ⟨rfl, rfl, given⟩)
    · exact .inr (.inr ⟨given, rfl, rfl⟩)
  unfold linkedBy at held
  split at held
  · exact .inl (mem_values_of_evict admits.distinct held)
  · next v kind given =>
    split at held
    · exact .inl held
    · refine (joined given held).imp_left fun before => ?_
      exact mem_values_of_evict admits.distinct (mem_values_of_evict admits.distinct.symm before)
  · next v kind given =>
    split at held
    · exact .inl held
    · exact (joined given held).imp_left (mem_values_of_evict admits.distinct.symm)
  · next v kind given =>
    split at held
    · exact .inl (mem_values_of_part (admits.dual v given).slot_ne held)
    · exact .inl held
  · exact .inl held

/-- A call writes the slot of its receiver, that of its argument, and those of the objects in these two. -/
theorem holding?_linkedBy (touched : Nat → String → Prop) (distinct : c.role ≠ o)
    (self : touched c.receiver c.role) (olds : ∀ old ∈ h.values c.receiver c.role, touched old o)
    (new : ∀ v ∈ c.argument, touched v o)
    (others : ∀ v ∈ c.argument, ∀ u ∈ h.values v o, touched u c.role) (apart : ¬ touched p role) :
    (h.linkedBy c o).holding? p role = h.holding? p role := by
  -- Neither the receiver nor the argument is the object of the slot.
  have near : ¬ (p = c.receiver ∧ role = c.role) := by
    rintro ⟨rfl, rfl⟩
    exact apart self
  have far (v : Nat) (given : c.argument = some v) : ¬ (p = v ∧ role = o) := by
    rintro ⟨rfl, rfl⟩
    exact apart (new p given)
  unfold linkedBy
  split
  · exact holding?_evict self olds apart
  · next v kind given =>
    split
    · rfl
    · rw [join, holding?_adjust, if_neg (far v given), holding?_adjust, if_neg near,
        holding?_evict (new v given) (fun u there => others v given u (mem_values_of_evict distinct there))
          apart, holding?_evict self olds apart]
  · next v kind given =>
    split
    · rfl
    · rw [join, holding?_adjust, if_neg (far v given), holding?_adjust, if_neg near,
        holding?_evict (new v given) (others v given) apart]
  · next v kind given =>
    split
    · rw [part, holding?_adjust, if_neg (far v given), holding?_adjust, if_neg near]
    · rfl
  · rfl

end Heap

end Objects

end ClassDiagram
