import ClassDiagram.Proofs.Objects.Members
import Mathlib.Algebra.Order.BigOperators.Group.List
import Mathlib.Algebra.Order.Group.Nat

/-!
# Weights of heaps

A sum over all slots (`Heap.total`) measures a heap.  Where the slots of an object have different names, a
write of a slot changes the sum by the weight of what the slot held and holds (`Heap.Regular.total_hold`).
-/

set_option autoImplicit false

namespace ClassDiagram

/-- Whether a call on another object takes something out, if it changes anything. -/
def PartnerCall.Unlinks (c : PartnerCall) : Prop :=
  c.kind = .addTo ∨ c.kind = .set → c.passesSelf = false

namespace Objects

/-! ## Sums over all slots -/

/-- The sum of a weight over the slots of objects, of which the first one has a given number. -/
def weigh (f : Nat → Holding → Nat) (first : Nat) : List Object → Nat
  | [] => 0
  | object :: rest => (object.slots.map (f first ·.holding)).sum + weigh f (first + 1) rest

/-- The sum of a weight over the slots of all objects. -/
def Heap.total (h : Heap) (f : Nat → Holding → Nat) : Nat := weigh f 0 h.objects

/-- A weight that counts the objects in slots. -/
def linkWeight (_ : Nat) (k : Holding) : Nat := k.values.length

variable {h h' : Heap} {x y : Nat} {r : String} {s : Slot} {f g : Nat → Holding → Nat}

/-- A weight that is larger at every slot has a larger sum. -/
theorem weigh_le (le : ∀ i k, f i k ≤ g i k) (first : Nat) (objects : List Object) :
    weigh f first objects ≤ weigh g first objects := by
  induction objects generalizing first with
  | nil => exact Nat.le_refl 0
  | cons object rest ih =>
    refine Nat.add_le_add ?_ (ih (first + 1))
    exact List.sum_le_sum fun s _ => le first s.holding

/-- The sum of a weight that is the same for all objects is a sum over the slots. -/
theorem weigh_const (first : Nat) (w : Holding → Nat) (objects : List Object) :
    weigh (fun _ => w) first objects = (objects.map fun o => (o.slots.map (w ·.holding)).sum).sum := by
  induction objects generalizing first with
  | nil => rfl
  | cons object rest ih => simp [weigh, ih]

/-- The sum of the numbers of objects in slots is the number of links. -/
theorem Heap.total_linkWeight (h : Heap) : h.total linkWeight = h.linkCount := weigh_const 0 _ _

/-- The sum of one for each slot is the number of slots. -/
theorem Heap.total_one (h : Heap) : h.total (fun _ _ => 1) = h.slotCount := by
  have ones (o : Object) : (o.slots.map fun _ => 1).sum = o.slots.length := by simp
  simp only [Heap.total, weigh_const, ones]
  rfl

/-- The sum of a weight over the slots of an object. -/
def Object.weight (f : Nat → Holding → Nat) (i : Nat) (o : Object) : Nat :=
  (o.slots.map (f i ·.holding)).sum

/-- A write of a slot whose name no other slot has changes the sum by the weight of its contents. -/
theorem Object.weight_hold {o : Object} (names : (o.slots.map (·.name)).Nodup)
    (found : o.slot? r = some s) (k : Holding) (i : Nat) :
    (o.hold r k).weight f i + f i s.holding = o.weight f i + f i k := by
  obtain ⟨className, slots, calls⟩ := o
  simp only [Object.weight, Object.hold, Object.slot?] at names found ⊢
  induction slots with
  | nil => simp at found
  | cons t rest ih =>
    rw [List.map_cons, List.nodup_cons] at names
    simp only [List.map_cons, List.sum_cons]
    by_cases here : t.name = r
    · obtain rfl : t = s := by simpa [here] using found
      have others : (rest.map fun s => if s.name == r then { s with holding := k } else s) = rest := by
        conv_rhs => rw [← List.map_id rest]
        refine List.map_congr_left fun s there => ?_
        have differs : s.name ≠ r := fun same =>
          names.1 (List.mem_map.2 ⟨s, there, same.trans here.symm⟩)
        simp [differs]
      simp only [others, here, beq_self_eq_true, if_true]
      omega
    · have below := ih names.2 (by simpa [here] using found)
      simp only [beq_eq_false_iff_ne.2 here, Bool.false_eq_true, if_false]
      omega

/-- A change of one object changes the sum by the weight of that object. -/
theorem weigh_modify {objects : List Object} {object : Object} (there : objects[x]? = some object)
    (change : Object → Object) (first : Nat) :
    weigh f first (objects.modify x change) + object.weight f (first + x) =
      weigh f first objects + (change object).weight f (first + x) := by
  induction objects generalizing first x with
  | nil => simp at there
  | cons head rest ih =>
    cases x with
    | zero =>
      obtain rfl : head = object := by simpa using there
      simp only [List.modify_zero_cons, weigh, Object.weight, Nat.add_zero]
      omega
    | succ x =>
      have below := ih (by simpa using there) (first + 1)
      simp only [List.modify_succ_cons, weigh]
      rw [show first + (x + 1) = first + 1 + x by omega]
      omega

namespace Heap

/-- A change of an object changes that object and no other one. -/
theorem object?_modify (h : Heap) (x : Nat) (change : Object → Object) (y : Nat) :
    (h.modify x change).object? y =
      if y = x then (h.object? y).map change else h.object? y := by
  simp only [modify, object?, List.getElem?_modify]
  by_cases same : x = y
  · simp [same]
  · simp [same, Ne.symm same]

/-- An entry in a trace leaves the sum of every weight. -/
@[simp] theorem total_record (h : Heap) (x : Nat) (kind : AccessorKind) (r : String)
    (f : Nat → Holding → Nat) : (h.record x kind r).total f = h.total f := by
  cases there : h.objects[x]? with
  | none =>
    rw [record, modify, List.modify_eq_self (List.getElem?_eq_none_iff.1 there)]
  | some object =>
    have change := weigh_modify (f := f) there (·.record (kind.method r)) 0
    exact Nat.add_right_cancel change

end Heap

/-! ## Slots of members -/

/-- Whether a call takes something out, if it changes anything. -/
def Call.Unlinks (c : Call) : Prop := c.kind = .addTo ∨ c.kind = .set → c.argument = none

/-- The call that takes something out does so on every object. -/
theorem Call.unlinks_on {c : PartnerCall} (unlinks : c.Unlinks) (receiver self : Nat) :
    (PartnerCall.on c receiver self).Unlinks := by
  intro kind
  simp [PartnerCall.on, unlinks kind]

/-- Whether slots have different names, and the calls for an object that goes take something out. -/
structure Object.IsRegular (o : Object) : Prop where
  names : (o.slots.map (·.name)).Nodup
  detach : ∀ s ∈ o.slots, ∀ c, s.detach = some c → c.Unlinks

/-- An object whose slot is written stays regular. -/
theorem Object.IsRegular.hold {o : Object} (regular : o.IsRegular) (r : String) (k : Holding) :
    (o.hold r k).IsRegular := by
  have name (s : Slot) : (if s.name == r then { s with holding := k } else s).name = s.name := by
    split <;> rfl
  have calls (s : Slot) : (if s.name == r then { s with holding := k } else s).detach = s.detach := by
    split <;> rfl
  refine ⟨?_, ?_⟩
  · simp only [Object.hold, List.map_map, Function.comp_def, name]
    exact regular.names
  · intro s there c found
    obtain ⟨s', there', rfl⟩ := List.mem_map.1 there
    exact regular.detach s' there' c (by rwa [calls] at found)

namespace Heap

/-- Whether all objects are regular, as objects with the slots of members are. -/
def Regular (h : Heap) : Prop := ∀ x o, h.object? x = some o → o.IsRegular

/-- Objects stay regular when a trace gets an entry. -/
theorem Regular.record (regular : h.Regular) (x : Nat) (kind : AccessorKind) (r : String) :
    (h.record x kind r).Regular := by
  intro y o there
  rw [Heap.record, object?_modify] at there
  split at there
  · obtain ⟨o', there', rfl⟩ := Option.map_eq_some_iff.1 there
    exact ⟨(regular y o' there').names, (regular y o' there').detach⟩
  · exact regular y o there

/-- Objects stay regular when a slot is written. -/
theorem Regular.hold (regular : h.Regular) (x : Nat) (r : String) (k : Holding) :
    (h.hold x r k).Regular := by
  intro y o there
  rw [Heap.hold, object?_modify] at there
  split at there
  · obtain ⟨o', there', rfl⟩ := Option.map_eq_some_iff.1 there
    exact (regular y o' there').hold r k
  · exact regular y o there

/-- The call for an object that goes from a regular slot takes something out. -/
theorem Regular.detach (regular : h.Regular) (found : h.slot? x r = some s) {c : PartnerCall}
    (calls : s.detach = some c) : c.Unlinks := by
  obtain ⟨o, there, named⟩ := Option.bind_eq_some_iff.1 found
  exact (regular x o there).detach s (List.mem_of_find?_eq_some named) c calls

/-- A write changes the sum by the weight of the contents of the slot. -/
theorem Regular.total_hold (regular : h.Regular) (found : h.slot? x r = some s) (k : Holding)
    (f : Nat → Holding → Nat) : (h.hold x r k).total f + f x s.holding = h.total f + f x k := by
  obtain ⟨o, there, named⟩ := Option.bind_eq_some_iff.1 found
  have outer := weigh_modify (f := f) there (·.hold r k) 0
  have inner := Object.weight_hold (f := f) (regular x o there).names named k x
  rw [Nat.zero_add] at outer
  change weigh f 0 (h.objects.modify x (·.hold r k)) + _ = weigh f 0 h.objects + _
  omega

end Heap

end Objects

end ClassDiagram
