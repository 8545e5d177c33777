import ClassDiagram.Proofs.Objects.Slots
import Mathlib.Data.List.Nodup

/-!
# Links between objects

Two slots of two objects are dual when they are for the two ends of one association: each calls back the
other one.  A heap is paired when every link that calls back is held on both sides and nothing is held
twice.

A link ends by `part` and begins by `join`; `evict` ends the link that a single slot holds.  All of them
keep a heap paired.  What a whole exchange of accessors does is a combination of the three.
-/

set_option autoImplicit false

namespace ClassDiagram

/-- The call that links, on a slot of a kind. -/
def PartnerCall.linking (o : String) (isList : Bool) : PartnerCall :=
  ⟨if isList then .addTo else .set, o, true⟩

/-- The call that unlinks, on a slot of a kind. -/
def PartnerCall.unlinking (o : String) (isList : Bool) : PartnerCall :=
  if isList then ⟨.removeFrom, o, true⟩ else ⟨.set, o, false⟩

namespace Objects

/-- Whether the calls of a slot are on the slots of a kind with a name. -/
structure Slot.Faces (s : Slot) (o : String) (isList : Bool) : Prop where
  attach : s.attach = some (.linking o isList)
  detach : s.detach = some (.unlinking o isList)

/-- A slot has calls on one sort of slots only. -/
theorem Slot.Faces.unique {s : Slot} {o o' : String} {b b' : Bool} (first : s.Faces o b)
    (second : s.Faces o' b') : o = o' ∧ b = b' := by
  have same := first.attach.symm.trans second.attach
  simp only [PartnerCall.linking, Option.some.injEq, PartnerCall.mk.injEq, and_true] at same
  refine ⟨same.2, ?_⟩
  cases b <;> cases b' <;> simp_all

/-- Slots that are the same but for what they hold are for the same kind of thing. -/
theorem Slot.isList_of_emptied {s t : Slot} (same : s.emptied = t.emptied) :
    s.holding.isList = t.holding.isList := by
  rw [← Holding.isList_emptied s.holding, ← Holding.isList_emptied t.holding]
  exact congrArg (fun s : Slot => s.holding.isList) same

/-- Slots that are the same but for what they hold make the same calls. -/
theorem Slot.Faces.of_emptied {s t : Slot} {o : String} {b : Bool} (faces : s.Faces o b)
    (same : s.emptied = t.emptied) : t.Faces o b :=
  ⟨(congrArg (·.attach) same).symm.trans faces.attach,
    (congrArg (·.detach) same).symm.trans faces.detach⟩

namespace Heap

/-- Whether two slots are for the two ends of one association. -/
structure Dual (h : Heap) (x : Nat) (r : String) (y : Nat) (o : String) : Prop where
  distinct : r ≠ o
  faces : ∃ s t, h.slot? x r = some s ∧ h.slot? y o = some t ∧ s.Faces o t.holding.isList ∧
    t.Faces r s.holding.isList

/-- Whether all links that call back are held on both sides, and no object is in a slot twice. -/
structure Paired (h : Heap) : Prop where
  nodup : ∀ x r, (h.values x r).Nodup
  both : ∀ {x r s o b v}, h.slot? x r = some s → s.Faces o b → v ∈ h.values x r →
    h.Dual x r v o ∧ x ∈ h.values v o

/-- Whether all links that call back are held on both sides, but for those that are let off, and no object
is in a slot twice. -/
structure PairedBut (h : Heap) (off : Nat → Nat → Prop) : Prop where
  nodup : ∀ x r, (h.values x r).Nodup
  both : ∀ {x r s o b v}, h.slot? x r = some s → s.Faces o b → v ∈ h.values x r → ¬ off x v →
    h.Dual x r v o ∧ x ∈ h.values v o

/-- Whether something can be put into a slot without another object going. -/
def HasRoom (h : Heap) (x : Nat) (r : String) : Prop := ∀ k, h.holding? x r = some k → k.HasRoom

/-- Ends the link between two objects, on both sides. -/
def part (h : Heap) (x : Nat) (r : String) (y : Nat) (o : String) : Heap :=
  (h.adjust x r (·.without y)).adjust y o (·.without x)

/-- Begins a link between two objects, on both sides. -/
def join (h : Heap) (x : Nat) (r : String) (y : Nat) (o : String) : Heap :=
  (h.adjust x r (·.including y)).adjust y o (·.including x)

/-- Ends the link of a slot that is for a single object. -/
def evict (h : Heap) (x : Nat) (r : String) (o : String) : Heap :=
  match h.holding? x r with
  | some (.one (some old)) => h.part x r old o
  | _ => h

variable {h h' : Heap} {x y p v : Nat} {r o q : String}

/-- The objects at a role are those in the slot of the role. -/
theorem values_of_slot {s : Slot} (found : h.slot? x r = some s) :
    h.values x r = s.holding.values := by
  simp [values, holding?, found]

/-- A change of one slot changes nothing that another slot holds. -/
theorem values_adjust_of_ne (ne : ¬ (y = x ∧ o = r)) (f : Holding → Holding) :
    (h.adjust x r f).values y o = h.values y o := by
  rw [values, values, holding?_adjust, if_neg ne]

/-- Only the object that is put in comes to a slot. -/
theorem mem_values_of_including (held : v ∈ (h.adjust x r (·.including y)).values p q) :
    v ∈ h.values p q ∨ p = x ∧ q = r ∧ v = y := by
  rw [values, holding?_adjust] at held
  split at held
  · next here =>
    cases found : h.holding? p q with
    | none => simp [found] at held
    | some k =>
      have comes := Holding.mem_of_mem_including (k := k) (by simpa [found] using held)
      exact comes.imp (by simp [values, found]) fun same => ⟨here.1, here.2, same⟩
  · exact .inl held

/-- A role at which there is an object has a slot. -/
theorem slot?_of_mem_values (held : v ∈ h.values x r) : ∃ s, h.slot? x r = some s := by
  cases found : h.slot? x r with
  | none => simp [values, holding?, found] at held
  | some s => exact ⟨s, rfl⟩

/-! ## Dual slots -/

/-- Two slots for the ends of an association are so in either order. -/
theorem Dual.symm (dual : h.Dual x r y o) : h.Dual y o x r := by
  obtain ⟨s, t, hs, ht, first, second⟩ := dual.faces
  exact ⟨dual.distinct.symm, t, s, ht, hs, second, first⟩

/-- The slot that is dual to a slot has the name that the slot calls back. -/
theorem Dual.role_eq (dual : h.Dual x r y o) (other : h.Dual x r p q) : o = q := by
  obtain ⟨s, _, hs, _, faces, _⟩ := dual.faces
  obtain ⟨s', _, hs', _, faces', _⟩ := other.faces
  obtain rfl : s = s' := Option.some.inj (hs.symm.trans hs')
  exact (faces.unique faces').1

/-- Two slots for the ends of an association are different slots. -/
theorem Dual.slot_ne (dual : h.Dual x r y o) : ¬ (x = y ∧ r = o) := fun same => dual.distinct same.2

/-- A heap with slots of the same shapes has a slot at the same roles. -/
theorem slot?_of_shape (keeps : ∀ y o, h'.shape? y o = h.shape? y o) {s : Slot}
    (found : h.slot? x r = some s) : ∃ s', h'.slot? x r = some s' ∧ s'.emptied = s.emptied := by
  have same := keeps x r
  simpa [shape?, found] using same

/-- Two slots for the ends of an association are so in every heap with slots of the same shapes. -/
theorem Dual.of_shape (dual : h.Dual x r y o) (keeps : ∀ y o, h'.shape? y o = h.shape? y o) :
    h'.Dual x r y o := by
  obtain ⟨s, t, hs, ht, first, second⟩ := dual.faces
  obtain ⟨s', hs', es⟩ := slot?_of_shape keeps hs
  obtain ⟨t', ht', et⟩ := slot?_of_shape keeps ht
  refine ⟨dual.distinct, s', t', hs', ht', ?_, ?_⟩
  · rw [Slot.isList_of_emptied et]
    exact first.of_emptied es.symm
  · rw [Slot.isList_of_emptied es]
    exact second.of_emptied et.symm

/-! ## Ending and beginning a link -/

/-- The end of a link leaves the shapes of all slots. -/
@[simp] theorem shape?_part (h : Heap) (x : Nat) (r : String) (y : Nat) (o : String) (p : Nat)
    (q : String) : (h.part x r y o).shape? p q = h.shape? p q := by
  unfold part
  rw [shape?_adjust (fun k => Holding.isList_without x k),
    shape?_adjust (fun k => Holding.isList_without y k)]

/-- The start of a link leaves the shapes of all slots. -/
@[simp] theorem shape?_join (h : Heap) (x : Nat) (r : String) (y : Nat) (o : String) (p : Nat)
    (q : String) : (h.join x r y o).shape? p q = h.shape? p q := by
  unfold join
  rw [shape?_adjust (fun k => Holding.isList_including x k),
    shape?_adjust (fun k => Holding.isList_including y k)]

/-- A slot that is vacated leaves the shapes of all slots. -/
@[simp] theorem shape?_evict (h : Heap) (x : Nat) (r o : String) (p : Nat) (q : String) :
    (h.evict x r o).shape? p q = h.shape? p q := by
  unfold evict
  split
  · exact shape?_part ..
  · rfl

/-- A link that ends is the same from either side. -/
theorem part_comm (ne : ¬ (x = y ∧ r = o)) : h.part x r y o = h.part y o x r :=
  adjust_comm h ne _ _

/-- A link that ends takes each object out of the slot of the other one, and nothing else. -/
theorem values_part (ne : ¬ (x = y ∧ r = o)) (p : Nat) (q : String) :
    (h.part x r y o).values p q =
      if p = x ∧ q = r then (h.values p q).erase y
      else if p = y ∧ q = o then (h.values p q).erase x
      else h.values p q := by
  simp only [values, part, holding?_adjust]
  by_cases first : p = x ∧ q = r
  · obtain ⟨rfl, rfl⟩ := first
    cases h.holding? p q <;> simp [ne]
  · by_cases second : p = y ∧ q = o
    · obtain ⟨rfl, rfl⟩ := second
      cases h.holding? p q <;> simp [first]
    · simp [first, second]

/-- A link that starts puts each object into the slot of the other one, where there is room, and nothing else. -/
theorem values_join (ne : ¬ (x = y ∧ r = o)) (roomX : h.HasRoom x r) (roomY : h.HasRoom y o)
    (isX : (h.slot? x r).isSome) (isY : (h.slot? y o).isSome) (p : Nat) (q : String) :
    (h.join x r y o).values p q =
      if p = x ∧ q = r then h.values p q ++ [y]
      else if p = y ∧ q = o then h.values p q ++ [x]
      else h.values p q := by
  simp only [values, join, holding?_adjust]
  by_cases first : p = x ∧ q = r
  · obtain ⟨rfl, rfl⟩ := first
    obtain ⟨s, found⟩ := Option.isSome_iff_exists.1 isX
    have room := roomX s.holding (by simp [holding?, found])
    simp [holding?, found, ne, Holding.values_including room]
  · by_cases second : p = y ∧ q = o
    · obtain ⟨rfl, rfl⟩ := second
      obtain ⟨s, found⟩ := Option.isSome_iff_exists.1 isY
      have room := roomY s.holding (by simp [holding?, found])
      simp [holding?, found, first, Holding.values_including room]
    · simp [first, second]

/-- After a link has ended, slots hold what they held before or less. -/
theorem mem_values_of_part (ne : ¬ (x = y ∧ r = o)) (held : v ∈ (h.part x r y o).values p q) :
    v ∈ h.values p q := by
  rw [values_part ne] at held
  split at held
  · exact List.mem_of_mem_erase held
  · split at held
    · exact List.mem_of_mem_erase held
    · exact held

/-- A slot with room still has room after a link has ended. -/
theorem HasRoom.part (room : h.HasRoom p q) : (h.part x r y o).HasRoom p q := by
  intro k held
  simp only [Heap.part, holding?_adjust] at held
  cases found : h.holding? p q with
  | none => simp [found] at held
  | some k' =>
    have room := room k' found
    rw [found] at held
    split at held <;> split at held <;> simp only [Option.map_some, Option.some.injEq] at held <;>
      subst held
    · exact (room.without y).without x
    · exact room.without x
    · exact room.without y
    · exact room

/-! ## Paired heaps -/

/-- A link that is held on one side of dual slots is held on the other one. -/
theorem Paired.mem_symm (paired : h.Paired) (dual : h.Dual x r y o) (held : y ∈ h.values x r) :
    x ∈ h.values y o := by
  obtain ⟨s, t, hs, _, faces, _⟩ := dual.faces
  exact (paired.both hs faces held).2

/-- Where links are on both sides, one object holds another exactly if it is held by it. -/
theorem Paired.mem_iff (paired : h.Paired) (dual : h.Dual x r y o) :
    y ∈ h.values x r ↔ x ∈ h.values y o :=
  ⟨paired.mem_symm dual, paired.mem_symm dual.symm⟩

/-- What a slot that calls back holds is linked to its object in the dual slot. -/
theorem Paired.dual_of_mem (paired : h.Paired) (dual : h.Dual x r y o) (held : v ∈ h.values x r) :
    h.Dual x r v o := by
  obtain ⟨s, t, hs, _, faces, _⟩ := dual.faces
  exact (paired.both hs faces held).1

/-- Entries in the traces leave the slots for the ends of an association. -/
theorem Dual.recordAll (dual : h.Dual x r y o) (es : List Entry) : (h.recordAll es).Dual x r y o :=
  dual.of_shape (shape?_recordAll h es)

/-- Where all links are on both sides, all links but some are. -/
theorem Paired.pairedBut (paired : h.Paired) (off : Nat → Nat → Prop) : h.PairedBut off :=
  ⟨paired.nodup, fun found faces held _ => paired.both found faces held⟩

/-- Where all links but none are on both sides, all links are. -/
theorem PairedBut.paired (paired : h.PairedBut fun _ _ => False) : h.Paired :=
  ⟨paired.nodup, fun found faces held => paired.both found faces held id⟩

/-- Entries in the traces leave the links on both sides, but for those let off. -/
theorem PairedBut.recordAll {off : Nat → Nat → Prop} (paired : h.PairedBut off) (es : List Entry) :
    (h.recordAll es).PairedBut off := by
  refine ⟨fun y r => by rw [values_recordAll]; exact paired.nodup y r, ?_⟩
  intro y r s o b v found faces held counts
  rw [slot?_recordAll] at found
  rw [values_recordAll] at held ⊢
  obtain ⟨dual, back⟩ := paired.both found faces held counts
  exact ⟨dual.recordAll es, back⟩

/-- Entries in the traces leave all links on both sides. -/
theorem Paired.recordAll (paired : h.Paired) (es : List Entry) : (h.recordAll es).Paired :=
  ((paired.pairedBut _).recordAll es).paired

/-- The end of a link keeps the other links on both sides. -/
theorem PairedBut.part {off : Nat → Nat → Prop} (paired : h.PairedBut off) (dual : h.Dual x r y o) :
    (h.part x r y o).PairedBut off := by
  have ne := dual.slot_ne
  have nodup (p : Nat) (q : String) : ((h.part x r y o).values p q).Nodup := by
    rw [values_part ne]
    split
    · exact (paired.nodup p q).erase y
    · split
      · exact (paired.nodup p q).erase x
      · exact paired.nodup p q
  refine ⟨nodup, ?_⟩
  intro p q s q' b v found faces held counts
  obtain ⟨s', found', same⟩ := slot?_of_shape (fun p q => (shape?_part h x r y o p q).symm) found
  obtain ⟨link, back⟩ :=
    paired.both found' (faces.of_emptied same.symm) (mem_values_of_part ne held) counts
  refine ⟨link.of_shape (shape?_part h x r y o), ?_⟩
  rw [values_part ne] at held ⊢
  -- The way back could be gone only for the link that ended, and that one is gone on both sides.
  by_cases first : v = x ∧ q' = r
  · obtain ⟨rfl, rfl⟩ := first
    obtain rfl : o = q := dual.role_eq link.symm
    rw [if_pos ⟨rfl, rfl⟩, (paired.nodup v q').mem_erase_iff]
    refine ⟨fun same => ?_, back⟩
    subst same
    rw [if_neg fun e => ne ⟨e.1.symm, e.2.symm⟩, if_pos ⟨rfl, rfl⟩,
      (paired.nodup p o).mem_erase_iff] at held
    exact held.1 rfl
  · rw [if_neg first]
    by_cases second : v = y ∧ q' = o
    · obtain ⟨rfl, rfl⟩ := second
      obtain rfl : r = q := dual.symm.role_eq link.symm
      rw [if_pos ⟨rfl, rfl⟩, (paired.nodup v q').mem_erase_iff]
      refine ⟨fun same => ?_, back⟩
      subst same
      rw [if_pos ⟨rfl, rfl⟩, (paired.nodup p r).mem_erase_iff] at held
      exact held.1 rfl
    · rw [if_neg second]
      exact back

/-- The end of a link keeps a heap paired. -/
theorem Paired.part (paired : h.Paired) (dual : h.Dual x r y o) : (h.part x r y o).Paired :=
  ((paired.pairedBut _).part dual).paired

/-- Giving up the link of a single slot keeps a heap paired. -/
theorem Paired.evict (paired : h.Paired) (dual : h.Dual x r y o) : (h.evict x r o).Paired := by
  unfold Heap.evict
  split
  · next old held =>
    exact paired.part (paired.dual_of_mem dual (by simp [values, held, Holding.values]))
  · exact paired

/-- The beginning of a link keeps a heap paired, where both slots have room. -/
theorem Paired.join (paired : h.Paired) (dual : h.Dual x r y o) (roomX : h.HasRoom x r)
    (roomY : h.HasRoom y o) (new : y ∉ h.values x r) : (h.join x r y o).Paired := by
  have ne := dual.slot_ne
  have new' : x ∉ h.values y o := fun held => new (paired.mem_symm dual.symm held)
  obtain ⟨s₁, t₁, hs₁, ht₁, faces₁, faces₁'⟩ := dual.faces
  have eq (p : Nat) (q : String) := values_join ne roomX roomY (by simp [hs₁]) (by simp [ht₁]) p q
  have grows {p : Nat} {q : String} {v : Nat} (held : v ∈ h.values p q) :
      v ∈ (h.join x r y o).values p q := by
    rw [eq]
    split
    · exact List.mem_append_left _ held
    · split
      · exact List.mem_append_left _ held
      · exact held
  refine ⟨fun p q => ?_, ?_⟩
  · rw [eq]
    split
    · next same =>
      obtain ⟨rfl, rfl⟩ := same
      exact (paired.nodup p q).append (List.nodup_singleton y) (by simpa using new)
    · split
      · next same =>
        obtain ⟨rfl, rfl⟩ := same
        exact (paired.nodup p q).append (List.nodup_singleton x) (by simpa using new')
      · exact paired.nodup p q
  intro p q s q' b v found faces held
  obtain ⟨s', found', same⟩ := slot?_of_shape (fun p q => (shape?_join h x r y o p q).symm) found
  have faces' := faces.of_emptied same.symm
  -- A link is the new one, seen from either side, or it was there before.
  by_cases old : v ∈ h.values p q
  · obtain ⟨link, back⟩ := paired.both found' faces' old
    exact ⟨link.of_shape (shape?_join h x r y o), grows back⟩
  · have joined : (h.join x r y o).Dual x r y o := dual.of_shape (shape?_join h x r y o)
    rw [eq] at held
    by_cases first : p = x ∧ q = r
    · obtain ⟨rfl, rfl⟩ := first
      obtain rfl : s₁ = s' := Option.some.inj (hs₁.symm.trans found')
      obtain rfl : v = y := by simpa [old] using held
      obtain rfl := (faces₁.unique faces').1
      refine ⟨joined, ?_⟩
      rw [eq, if_neg fun e => ne ⟨e.1.symm, e.2.symm⟩, if_pos ⟨rfl, rfl⟩]
      exact List.mem_append_right _ (List.mem_singleton.2 rfl)
    · rw [if_neg first] at held
      by_cases second : p = y ∧ q = o
      · obtain ⟨rfl, rfl⟩ := second
        obtain rfl : t₁ = s' := Option.some.inj (ht₁.symm.trans found')
        obtain rfl : v = x := by simpa [old] using held
        obtain rfl := (faces₁'.unique faces').1
        refine ⟨joined.symm, ?_⟩
        rw [eq, if_pos ⟨rfl, rfl⟩]
        exact List.mem_append_right _ (List.mem_singleton.2 rfl)
      · rw [if_neg second] at held
        exact absurd held old

end Heap

end Objects

end ClassDiagram
