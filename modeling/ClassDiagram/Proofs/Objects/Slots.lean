import ClassDiagram.Objects.Creation
import Mathlib.Algebra.GroupWithZero.Nat
import Mathlib.Data.List.Basic

/-!
# Slots of a heap

What the slots of all objects are and hold, and what each way to change a heap does to them.  Every later
argument about accessors looks at a heap through `slot?`, `shape?` and `values` only: a write changes
one slot, a record changes none, and neither changes the shape of a slot, that is its name, its calls and
whether it is for a list.

A change is either a write of one slot (`adjust`) or a list of entries of accessors (`recordAll`); the
two commute, so that an exchange can be given as its writes followed by its entries.
-/

set_option autoImplicit false

namespace ClassDiagram.Objects

/-! ## Contents -/

namespace Holding

/-- Whether a slot with these contents is for a list. -/
def isList : Holding → Bool
  | one _ => false
  | many _ => true

/-- No contents, for a slot of the same kind. -/
def emptied : Holding → Holding
  | one _ => one none
  | many _ => many []

/-- The contents after an object is taken out. -/
def without (v : Nat) : Holding → Holding
  | one value => one (if value = some v then none else value)
  | many values => many (values.erase v)

/-- The contents after an object is put in: in the place of another one, or at the end of a list. -/
def including (v : Nat) : Holding → Holding
  | one _ => one (some v)
  | many values => many (values ++ [v])

/-- Whether an object can be put in without another one going: in a list, or where nothing is. -/
def HasRoom : Holding → Prop
  | one value => value = none
  | many _ => True

/-- A slot that is emptied stays for a list or for a single object. -/
@[simp] theorem isList_emptied (k : Holding) : k.emptied.isList = k.isList := by
  cases k <;> rfl

/-- A slot stays for a list or for a single object when an object goes. -/
@[simp] theorem isList_without (v : Nat) (k : Holding) : (k.without v).isList = k.isList := by
  cases k <;> rfl

/-- A slot stays for a list or for a single object when an object comes. -/
@[simp] theorem isList_including (v : Nat) (k : Holding) : (k.including v).isList = k.isList := by
  cases k <;> rfl

/-- What slots of one kind hold is the same once they are emptied. -/
theorem emptied_eq_of_isList {k k' : Holding} (same : k.isList = k'.isList) :
    k.emptied = k'.emptied := by
  cases k <;> cases k' <;> simp_all [isList, emptied]

/-- When an object goes, the first occurrence of it is taken out. -/
@[simp] theorem values_without (v : Nat) (k : Holding) : (k.without v).values = k.values.erase v := by
  cases k with
  | one value =>
    cases value with
    | none => rfl
    | some w => by_cases same : w = v <;> simp [without, values, same]
  | many values => rfl

/-- An object that comes is the last one, if there is room. -/
theorem values_including {k : Holding} (room : k.HasRoom) (v : Nat) :
    (k.including v).values = k.values ++ [v] := by
  cases k with
  | one value => obtain rfl : value = none := room; rfl
  | many values => rfl

/-- An object that comes is in the slot. -/
theorem mem_values_including (v : Nat) (k : Holding) : v ∈ (k.including v).values := by
  cases k <;> simp [including, values]

/-- When an object comes, the others in the slot were there before. -/
theorem mem_of_mem_including {k : Holding} {v w : Nat} (there : v ∈ (k.including w).values) :
    v ∈ k.values ∨ v = w := by
  cases k with
  | one value => exact .inr (by simpa [including, values] using there)
  | many held => simpa [including, values] using there

/-- A slot with room still has room when an object goes. -/
theorem HasRoom.without {k : Holding} (room : k.HasRoom) (v : Nat) : (k.without v).HasRoom := by
  cases k with
  | one value => obtain rfl : value = none := room; rfl
  | many values => trivial

/-- A slot without room is for a single object and holds one. -/
theorem taken_of_not_hasRoom (k : Holding) (taken : ¬ k.HasRoom) : ∃ old, k = .one (some old) := by
  cases k with
  | many values => exact absurd trivial taken
  | one value =>
    cases value with
    | none => exact absurd rfl taken
    | some old => exact ⟨old, rfl⟩

end Holding

/-- A slot without its contents. -/
def Slot.emptied (s : Slot) : Slot := { s with holding := s.holding.emptied }

/-! ## Slots by object and role -/

namespace Heap

/-- The slot of an object with a name. -/
def slot? (h : Heap) (x : Nat) (r : String) : Option Slot := (h.object? x).bind (·.slot? r)

/-- The slot of an object with a name, without its contents. -/
def shape? (h : Heap) (x : Nat) (r : String) : Option Slot := (h.slot? x r).map Slot.emptied

/-- What the slot of an object with a name holds. -/
def holding? (h : Heap) (x : Nat) (r : String) : Option Holding := (h.slot? x r).map (·.holding)

/-- The objects in a slot; there are none where there is no slot. -/
def values (h : Heap) (x : Nat) (r : String) : List Nat := (h.holding? x r).elim [] Holding.values

/-- Changes what a slot holds. -/
def adjust (h : Heap) (x : Nat) (r : String) (f : Holding → Holding) : Heap :=
  match h.holding? x r with
  | none => h
  | some k => h.hold x r (f k)

/-- An object, an accessor that it begins to run and the member. -/
abbrev Entry := Nat × AccessorKind × String

/-- Records accessors in the order in which they begin. -/
def recordAll (h : Heap) (entries : List Entry) : Heap :=
  entries.foldl (fun h e => h.record e.1 e.2.1 e.2.2) h

/-- The accessors that each object ran, the last one first. -/
def traces (h : Heap) : List (List String) := h.objects.map (·.calls)

variable {h : Heap} {x y : Nat} {r o : String}

/-- What is held at a role is what its slot holds. -/
theorem holding?_of_slot {s : Slot} (found : h.slot? x r = some s) :
    h.holding? x r = some s.holding := by
  simp [holding?, found]

/-- An object with a slot is one of the objects of the heap. -/
theorem lt_of_slot? {s : Slot} (found : h.slot? x r = some s) : x < h.objects.length := by
  obtain ⟨object, there, _⟩ := Option.bind_eq_some_iff.1 found
  exact (List.getElem?_eq_some_iff.1 there).1

/-! ## Writes -/

/-- Something put into a slot changes what that slot holds, and no other slot. -/
theorem slot?_hold (h : Heap) (x : Nat) (r : String) (k : Holding) (y : Nat) (o : String) :
    (h.hold x r k).slot? y o =
      if y = x ∧ o = r then (h.slot? y o).map fun s => { s with holding := k } else h.slot? y o := by
  by_cases same : y = x
  · subst same
    simp only [slot?, hold, modify, object?, List.getElem?_modify_eq, true_and]
    cases h.objects[y]? with
    | none => simp
    | some object =>
      have names (s : Slot) :
          (if s.name == r then { s with holding := k } else s).name = s.name := by
        split <;> rfl
      simp only [Option.map_eq_map, Option.map_some, Option.bind_some, Object.slot?, Object.hold,
        List.find?_map, Function.comp_def, names]
      cases found : object.slots.find? (·.name == o) with
      | none => simp
      | some s =>
        have named : s.name = o := by simpa using List.find?_some found
        simp only [Option.map_some, named, beq_iff_eq]
        split <;> rfl
  · have other : ¬ x = y := fun e => same e.symm
    simp [slot?, hold, modify, object?, same, List.getElem?_modify_ne, other]

/-- A change of a slot puts what it held into it, changed. -/
theorem adjust_of_some {k : Holding} (found : h.holding? x r = some k) (f : Holding → Holding) :
    h.adjust x r f = h.hold x r (f k) := by
  simp [adjust, found]

/-- A change of a slot that there is not changes nothing. -/
theorem adjust_of_none (missing : h.holding? x r = none) (f : Holding → Holding) :
    h.adjust x r f = h := by
  simp [adjust, missing]

/-- A change of a slot changes what that slot holds, and no other slot. -/
theorem slot?_adjust (h : Heap) (x : Nat) (r : String) (f : Holding → Holding) (y : Nat) (o : String) :
    (h.adjust x r f).slot? y o =
      if y = x ∧ o = r then (h.slot? y o).map fun s => { s with holding := f s.holding }
      else h.slot? y o := by
  cases found : h.slot? x r with
  | none =>
    rw [adjust_of_none (by simp [holding?, found])]
    split
    · next same => rw [same.1, same.2, found]; rfl
    · rfl
  | some s =>
    rw [adjust_of_some (by simp [holding?, found]; rfl), slot?_hold]
    split
    · next same => rw [same.1, same.2, found]; rfl
    · rfl

/-- A slot that is changed holds what it held, changed. -/
theorem slot?_adjust_self {s : Slot} (found : h.slot? x r = some s) (f : Holding → Holding) :
    (h.adjust x r f).slot? x r = some { s with holding := f s.holding } := by
  rw [slot?_adjust, if_pos ⟨rfl, rfl⟩, found]
  rfl

/-- A slot other than the changed one is as before. -/
theorem slot?_adjust_of_ne (ne : ¬ (y = x ∧ o = r)) (f : Holding → Holding) :
    (h.adjust x r f).slot? y o = h.slot? y o := by
  rw [slot?_adjust, if_neg ne]

/-- A change of a slot changes what is held at its role, and at no other one. -/
theorem holding?_adjust (h : Heap) (x : Nat) (r : String) (f : Holding → Holding) (y : Nat) (o : String) :
    (h.adjust x r f).holding? y o =
      if y = x ∧ o = r then (h.holding? y o).map f else h.holding? y o := by
  simp only [holding?, slot?_adjust]
  split <;> simp [Function.comp_def]

/-- A change that keeps the kind of contents keeps the shape of slots. -/
theorem shape?_adjust {f : Holding → Holding} (keeps : ∀ k, (f k).isList = k.isList) (y : Nat)
    (o : String) : (h.adjust x r f).shape? y o = h.shape? y o := by
  simp only [shape?, slot?_adjust]
  split
  · cases h.slot? y o with
    | none => rfl
    | some s => simp [Slot.emptied, Holding.emptied_eq_of_isList (keeps s.holding)]
  · rfl

/-- Writing what a slot holds is changing it. -/
theorem hold_eq_adjust {k k' : Holding} (held : h.holding? x r = some k) (f : Holding → Holding)
    (written : f k = k') : h.hold x r k' = h.adjust x r f := by
  rw [adjust_of_some held, written]

/-- Of two things put into one slot, the last one stays. -/
theorem hold_hold (h : Heap) (x : Nat) (r : String) (k k' : Holding) :
    (h.hold x r k).hold x r k' = h.hold x r k' := by
  simp only [hold, modify, List.modify_modify_eq, Heap.mk.injEq]
  congr 1
  funext object
  simp only [Function.comp, Object.hold, List.map_map, Object.mk.injEq, true_and, and_true]
  apply List.map_congr_left
  intro s _
  by_cases named : s.name = r <;> simp [named]

/-- An object comes in the place of another one. -/
theorem hold_without {s : Slot} {value : Option Nat} (found : h.slot? x r = some s)
    (held : s.holding = .one value) (old new : Nat) :
    (h.adjust x r (·.without old)).hold x r (.one (some new)) = h.adjust x r (·.including new) := by
  rw [adjust_of_some (holding?_of_slot found), hold_hold,
    hold_eq_adjust (holding?_of_slot found) (·.including new) (by rw [held]; rfl)]

/-- Two slots can be written in either order. -/
theorem hold_comm (h : Heap) (ne : ¬ (x = y ∧ r = o)) (k k' : Holding) :
    (h.hold x r k).hold y o k' = (h.hold y o k').hold x r k := by
  by_cases same : x = y
  · subst same
    have other : ¬ r = o := fun e => ne ⟨rfl, e⟩
    simp only [hold, modify, List.modify_modify_eq, Heap.mk.injEq]
    congr 1
    funext object
    simp only [Function.comp, Object.hold, List.map_map, Object.mk.injEq, true_and, and_true]
    apply List.map_congr_left
    intro s _
    by_cases first : s.name = r <;> by_cases second : s.name = o <;> simp_all
  · simp only [hold, modify]
    rw [List.modify_modify_ne _ _ _ same]

/-- Two slots can be changed in either order. -/
theorem adjust_comm (h : Heap) (ne : ¬ (x = y ∧ r = o)) (f g : Holding → Holding) :
    (h.adjust x r f).adjust y o g = (h.adjust y o g).adjust x r f := by
  have ne' : ¬ (y = x ∧ o = r) := fun e => ne ⟨e.1.symm, e.2.symm⟩
  have first : (h.adjust x r f).holding? y o = h.holding? y o := by rw [holding?_adjust, if_neg ne']
  have second : (h.adjust y o g).holding? x r = h.holding? x r := by rw [holding?_adjust, if_neg ne]
  cases here : h.holding? x r with
  | none =>
    rw [adjust_of_none (second.trans here), adjust_of_none here]
  | some k =>
    cases there : h.holding? y o with
    | none => rw [adjust_of_none (first.trans there), adjust_of_none there]
    | some k' =>
      rw [adjust_of_some (first.trans there), adjust_of_some here, adjust_of_some (second.trans here),
        adjust_of_some there, hold_comm h ne]

/-! ## Entries -/

/-- An entry in a trace changes no slot. -/
@[simp] theorem slot?_record (h : Heap) (x : Nat) (kind : AccessorKind) (role : String) (y : Nat)
    (o : String) : (h.record x kind role).slot? y o = h.slot? y o := by
  simp only [slot?, record, modify, object?, List.getElem?_modify]
  cases h.objects[y]? with
  | none => rfl
  | some object => by_cases same : x = y <;> simp [same, Object.slot?, Object.record]

/-- An entry in a trace and the writing of a slot can be made in either order. -/
theorem hold_record (h : Heap) (x : Nat) (kind : AccessorKind) (role : String) (y : Nat) (o : String)
    (k : Holding) : (h.record x kind role).hold y o k = (h.hold y o k).record x kind role := by
  by_cases same : x = y
  · subst same
    simp only [hold, record, modify, List.modify_modify_eq]
    rfl
  · simp only [hold, record, modify]
    rw [List.modify_modify_ne _ _ _ same]

/-- Entries in the traces change no slot. -/
@[simp] theorem slot?_recordAll (h : Heap) (es : List Entry) (y : Nat) (o : String) :
    (h.recordAll es).slot? y o = h.slot? y o := by
  induction es generalizing h with
  | nil => rfl
  | cons e rest ih => simp only [recordAll, List.foldl_cons] at ih ⊢; rw [ih, slot?_record]

/-- Entries in the traces and the writing of a slot can be made in either order. -/
theorem hold_recordAll (h : Heap) (es : List Entry) (y : Nat) (o : String) (k : Holding) :
    (h.recordAll es).hold y o k = (h.hold y o k).recordAll es := by
  induction es generalizing h with
  | nil => rfl
  | cons e rest ih => simp only [recordAll, List.foldl_cons] at ih ⊢; rw [ih, hold_record]

/-- Entries in the traces change nothing that any object holds. -/
@[simp] theorem values_recordAll (h : Heap) (es : List Entry) (y : Nat) (o : String) :
    (h.recordAll es).values y o = h.values y o := by
  simp [values, holding?]

/-- Entries in the traces leave the shapes of all slots. -/
@[simp] theorem shape?_recordAll (h : Heap) (es : List Entry) (y : Nat) (o : String) :
    (h.recordAll es).shape? y o = h.shape? y o := by
  simp [shape?]

/-! ## Traces -/

/-- The writing of a slot adds no entry to a trace. -/
@[simp] theorem traces_hold (h : Heap) (x : Nat) (r : String) (k : Holding) :
    (h.hold x r k).traces = h.traces := by
  refine List.ext_getElem? fun i => ?_
  simp only [traces, hold, modify, List.getElem?_map, List.getElem?_modify, Option.map_eq_map,
    Option.map_map]
  refine Option.map_congr fun object _ => ?_
  simp only [Function.comp]
  split <;> rfl

/-- The change of a slot adds no entry to a trace. -/
@[simp] theorem traces_adjust (h : Heap) (x : Nat) (r : String) (f : Holding → Holding) :
    (h.adjust x r f).traces = h.traces := by
  rw [adjust]
  split
  · rfl
  · exact traces_hold ..

/-- An entry comes before those that its object has. -/
theorem traces_record (h : Heap) (x : Nat) (kind : AccessorKind) (role : String) :
    (h.record x kind role).traces = h.traces.modify x (kind.method role :: ·) := by
  refine List.ext_getElem? fun i => ?_
  simp only [traces, record, modify, List.getElem?_map, List.getElem?_modify, Option.map_eq_map,
    Option.map_map]
  refine Option.map_congr fun object _ => ?_
  simp only [Function.comp]
  split <;> rfl

/-- Entries come before those that the objects have. -/
theorem traces_recordAll (h : Heap) (es : List Entry) (y : Nat) {before : List String}
    (there : h.traces[y]? = some before) :
    ∃ added, (h.recordAll es).traces[y]? = some (added ++ before) := by
  induction es generalizing h before with
  | nil => exact ⟨[], there⟩
  | cons e rest ih =>
    have first : (h.record e.1 e.2.1 e.2.2).traces[y]? =
        some ((if e.1 = y then [e.2.1.method e.2.2] else []) ++ before) := by
      rw [traces_record, List.getElem?_modify, there]
      split <;> simp
    obtain ⟨added, last⟩ := ih (h.record e.1 e.2.1 e.2.2) first
    exact ⟨added ++ _, by rw [List.append_assoc]; exact last⟩

/-- An object gets one entry for each accessor at most. -/
theorem traceCount_recordAll (h : Heap) (es : List Entry) :
    ((h.recordAll es).traces.map List.length).sum ≤ (h.traces.map List.length).sum + es.length := by
  have step (traces : List (List String)) (x : Nat) (call : String) :
      ((traces.modify x (call :: ·)).map List.length).sum ≤ (traces.map List.length).sum + 1 := by
    induction traces generalizing x with
    | nil => simp
    | cons trace rest ih =>
      cases x with
      | zero => simp; omega
      | succ x =>
        have below := ih x
        simp only [List.modify_succ_cons, List.map_cons, List.sum_cons]
        omega
  induction es generalizing h with
  | nil => exact Nat.le_refl _
  | cons e rest ih =>
    have first := step h.traces e.1 (e.2.1.method e.2.2)
    have last := ih (h.record e.1 e.2.1 e.2.2)
    rw [traces_record] at last
    change ((recordAll (h.record e.1 e.2.1 e.2.2) rest).traces.map List.length).sum ≤ _
    simp only [List.length_cons]
    omega

end Heap

end ClassDiagram.Objects
