import ClassDiagram.Proofs.Java.Execution
import ClassDiagram.Proofs.Objects.Weights
import ClassDiagram.Proofs.Objects.World

/-!
# Objects as a store

The objects of a heap as generated code has them: a field for each slot (`storeOf`).  What accessors write
is written to the fields in the same way, as long as the objects have the slots of their classes
(`Heap.IsOf`), and they keep these slots in every run.
-/

set_option autoImplicit false

namespace ClassDiagram.Objects

open Java

/-- What a slot holds, as the value of a field. -/
def Holding.toField : Holding → FieldValue
  | one value => .reference value
  | many values => .list (values.map some)

/-- An object of a class, as an instance of the generated class, with the names of its slots as fields. -/
def Object.toInstance (owner : LinkedType) (o : Object) : Instance :=
  ⟨owner, o.slots.map fun s => (s.name, s.holding.toField), o.calls⟩

/-- The objects of a heap with their classes. -/
def storeOf (owners : List LinkedType) (h : Heap) : Store := List.zipWith Object.toInstance owners h.objects

/-- Whether the objects of a heap have the slots of their classes. -/
structure Heap.IsOf (h : Heap) (m : Linked) (owners : List LinkedType) : Prop where
  length : h.objects.length = owners.length
  isOf : ∀ x owner o, owners[x]? = some owner → h.object? x = some o → o.IsOf m owner

variable {m : Linked} {owners : List LinkedType} {owner : LinkedType} {h : Heap} {x : Nat} {r : String}
  {s : Slot} {k : Holding}

/-! ## Slots of classes -/

/-- Every object of a heap has a class. -/
theorem Heap.IsOf.owned (isOf : h.IsOf m owners) {o : Object} (there : h.object? x = some o) :
    ∃ owner, owners[x]? = some owner := by
  have lt := (List.getElem?_eq_some_iff.1 there).1
  rw [isOf.length] at lt
  exact ⟨owners[x], List.getElem?_eq_getElem lt⟩

/-- A slot is that of a member of the class of its object. -/
theorem Heap.IsOf.member (isOf : h.IsOf m owners) (owned : owners[x]? = some owner)
    (found : h.slot? x r = some s) :
    ∃ d ∈ m.associationMembers owner, d.name = r ∧ s.emptied = Slot.ofMember d := by
  obtain ⟨o, there, named⟩ := Option.bind_eq_some_iff.1 found
  obtain ⟨d, member, same⟩ :=
    (isOf.isOf x owner o owned there).member_of_mem (List.mem_of_find?_eq_some named)
  refine ⟨d, member, ?_, same⟩
  rw [← Heap.name_of_slot? found]
  exact (congrArg (·.name) same).symm

/-- The slots of a class fix the kinds of what they hold. -/
theorem Heap.IsOf.shape (isOf : h.IsOf m owners) (owned : owners[x]? = some owner) (r : String) :
    h.shape? x r = (slotsOf (m.associationMembers owner)).find? (·.name == r) := by
  have lt := (List.getElem?_eq_some_iff.1 owned).1
  rw [← isOf.length] at lt
  have there : h.object? x = some h.objects[x] := List.getElem?_eq_getElem lt
  have slots := (isOf.isOf x owner _ owned there).slots
  rw [Heap.shape?, Heap.slot?, there, Option.bind_some, ← slots, List.find?_map]
  rfl

/-- A slot that an object has once it has always. -/
theorem Heap.IsOf.exists_slot (isOf : h.IsOf m owners) {g : Heap} (isOf' : g.IsOf m owners)
    (found : h.slot? x r = some s) : ∃ s', g.slot? x r = some s' ∧ s'.emptied = s.emptied := by
  obtain ⟨o, there, _⟩ := Option.bind_eq_some_iff.1 found
  obtain ⟨owner, owned⟩ := isOf.owned there
  have same := (isOf'.shape owned r).trans (isOf.shape owned r).symm
  rw [shape?, shape?, found] at same
  exact Option.map_eq_some_iff.1 same

/-- A call that is noted leaves the objects those of their classes. -/
theorem Heap.IsOf.record (isOf : h.IsOf m owners) (x : Nat) (kind : AccessorKind) (r : String) :
    (h.record x kind r).IsOf m owners := by
  refine ⟨by simpa [Heap.record, Heap.modify] using isOf.length, fun y owner o owned there => ?_⟩
  rw [Heap.record, Heap.object?_modify] at there
  split at there
  · obtain ⟨o', there', rfl⟩ := Option.map_eq_some_iff.1 there
    exact ⟨(isOf.isOf y owner o' owned there').className, (isOf.isOf y owner o' owned there').slots⟩
  · exact isOf.isOf y owner o owned there

/-- An object has one slot of a name. -/
theorem Object.IsOf.slot_eq {o : Object} (isOf : o.IsOf m owner) (named : o.slot? r = some s) {s' : Slot}
    (there : s' ∈ o.slots) (same : s'.name = r) : s' = s := by
  have first : s.name = r := by simpa using List.find?_some named
  exact List.inj_on_of_nodup_map isOf.names there (List.mem_of_find?_eq_some named) (same.trans first.symm)

/-- An object that holds something else of the same sort is still one of its class. -/
theorem Object.IsOf.hold {o : Object} (isOf : o.IsOf m owner) (named : o.slot? r = some s)
    (kind : k.isList = s.holding.isList) : (o.hold r k).IsOf m owner := by
  refine ⟨isOf.className, ?_⟩
  rw [← isOf.slots, Object.hold, List.map_map]
  refine List.map_congr_left fun s' there => ?_
  by_cases same : s'.name = r
  · obtain rfl := isOf.slot_eq named there same
    simp [Slot.emptied, same, Holding.emptied_eq_of_isList kind]
  · simp [same]

/-- A slot may be written with what is of its kind. -/
theorem Heap.IsOf.hold (isOf : h.IsOf m owners) (found : h.slot? x r = some s)
    (kind : k.isList = s.holding.isList) : (h.hold x r k).IsOf m owners := by
  obtain ⟨object, here, named⟩ := Option.bind_eq_some_iff.1 found
  refine ⟨by simpa [Heap.hold, Heap.modify] using isOf.length, fun y owner o owned there => ?_⟩
  rw [Heap.hold, Heap.object?_modify] at there
  split at there
  · next same =>
    subst same
    obtain ⟨o', there', rfl⟩ := Option.map_eq_some_iff.1 there
    obtain rfl : object = o' := Option.some.inj (here.symm.trans there')
    exact (isOf.isOf _ owner object owned here).hold named kind
  · exact isOf.isOf y owner o owned there

/-! ## Runs -/

/-- A call that is passed on leaves the objects those of their classes if the exchange does. -/
theorem Heap.IsOf.passOn {exchange : Heap → Call → Outcome}
    (keeps : ∀ g c, g.IsOf m owners → (exchange g c).heap.IsOf m owners) (isOf : h.IsOf m owners)
    (call : Option PartnerCall) (y self : Nat) : (passOn exchange h call y self).heap.IsOf m owners := by
  cases call with
  | none => exact isOf
  | some call => exact keeps h _ isOf

/-- Objects keep the slots of their classes in every run. -/
theorem Heap.IsOf.run (n : Nat) (isOf : h.IsOf m owners) (c : Call) :
    (run n h c).heap.IsOf m owners := by
  induction n generalizing h c with
  | zero => exact isOf
  | succ n ih =>
    have recorded := isOf.record c.receiver c.kind c.role
    have passed {g : Heap} (isOf : g.IsOf m owners) (call : Option PartnerCall) (y : Nat) :
        (Objects.passOn (Objects.run n) g call y c.receiver).heap.IsOf m owners :=
      isOf.passOn (fun g c isOf => ih isOf c) call y c.receiver
    -- The slot of the receiver is of its kind throughout the run, whatever it holds.
    have written {g : Heap} (isOf' : g.IsOf m owners) {s : Slot} {k : Holding}
        (found : h.slot? c.receiver c.role = some s) (kind : k.isList = s.holding.isList) :
        (g.hold c.receiver c.role k).IsOf m owners := by
      obtain ⟨s', found', same⟩ := isOf.exists_slot isOf' found
      exact isOf'.hold found' (kind.trans (Slot.isList_of_emptied same).symm)
    have conduct := conducts (Objects.run n) h c
    change (runWith (Objects.run n) h c).heap.IsOf m owners
    generalize runWith (Objects.run n) h c = o at conduct ⊢
    cases conduct with
    | refused e cause => exact isOf
    | reads => exact isOf
    | idles => exact recorded
    | adds s values new kind found held given absent =>
      exact passed (written recorded found (by simp [held, Holding.isList])) _ _
    | removes s values old kind found held given present =>
      exact passed (written recorded found (by simp [held, Holding.isList])) _ _
    | fills s new kind found held given =>
      exact passed (written recorded found (by simp [held, Holding.isList])) _ _
    | clears s old kind found held given =>
      have released := passed (written (k := .one none) recorded found (by simp [held, Holding.isList]))
        s.detach old
      generalize Objects.passOn (Objects.run n) _ s.detach old c.receiver = o at released ⊢
      cases o with
      | done g => exact written released found (by simp [held, Holding.isList])
      | failed g e => exact released
      | unfinished g => exact released
    | replaces s old new kind found held given ne =>
      have released := passed (written (k := .one none) recorded found (by simp [held, Holding.isList]))
        s.detach old
      generalize Objects.passOn (Objects.run n) _ s.detach old c.receiver = o at released ⊢
      cases o with
      | done g => exact passed (written released found (by simp [held, Holding.isList])) _ _
      | failed g e => exact released
      | unfinished g => exact released

/-- The objects of a reachable world have the slots of their classes. -/
theorem World.Reachable.isOf {w : World} (reachable : World.Reachable m w) : w.heap.IsOf m w.owners := by
  induction reachable with
  | empty => exact ⟨rfl, fun x owner o owned => by simp [World.empty] at owned⟩
  | @create w owner _ isClass ih =>
    refine ⟨by simp [World.create, Heap.create, Heap.add, ih.length], fun x owner' o owned there => ?_⟩
    simp only [World.create, Heap.create, Heap.add, Heap.object?] at owned there
    rcases Nat.lt_or_ge x w.owners.length with old | new
    · rw [List.getElem?_append_left old] at owned
      rw [List.getElem?_append_left (ih.length ▸ old)] at there
      exact ih.isOf x owner' o owned there
    · rw [List.getElem?_append_right new] at owned
      rw [List.getElem?_append_right (ih.length ▸ new), ih.length] at there
      obtain rfl := List.mem_singleton.1 (List.mem_of_getElem? owned)
      obtain rfl := List.mem_singleton.1 (List.mem_of_getElem? there)
      refine ⟨rfl, (List.map_congr_left fun s there => ?_).trans (List.map_id _)⟩
      obtain ⟨d, _, rfl⟩ := mem_slotsOf there
      exact Slot.emptied_ofMember d
  | @call w c _ suits ih => exact ih.run _ c

/-! ## Writes -/

/-- An object that is changed is changed in the store. -/
theorem storeOf_modify (owners : List LinkedType) (h : Heap) (x : Nat) {f : Object → Object}
    {g : Instance → Instance} (same : ∀ owner o, Object.toInstance owner (f o) = g (o.toInstance owner)) :
    storeOf owners (h.modify x f) = (storeOf owners h).modify x g := by
  refine List.ext_getElem? fun i => ?_
  simp only [storeOf, Heap.modify, List.getElem?_zipWith, List.getElem?_modify]
  cases owners[i]? with
  | none => simp
  | some owner =>
    cases h.objects[i]? with
    | none => simp
    | some o => by_cases here : x = i <;> simp [here, same]

/-- A call that is noted on the heap is entered in the store. -/
theorem storeOf_record (owners : List LinkedType) (h : Heap) (x : Nat) (kind : AccessorKind) (r : String) :
    storeOf owners (h.record x kind r) = (storeOf owners h).enter x (kind.method r) :=
  storeOf_modify owners h x fun _ _ => rfl

/-- What an object holds on the heap is assigned to its field in the store. -/
theorem storeOf_hold (owners : List LinkedType) (h : Heap) (x : Nat) (r : String) (k : Holding) :
    storeOf owners (h.hold x r k) = (storeOf owners h).assign x r k.toField := by
  refine storeOf_modify owners h x fun owner o => ?_
  simp only [Object.toInstance, Object.hold, List.map_map]
  congr 1
  refine List.map_congr_left fun s _ => ?_
  by_cases named : s.name = r <;> simp [named]

/-- The field of a name holds what the slot of the name holds. -/
theorem lookup_fields (slots : List Slot) (r : String) :
    (slots.map fun s => (s.name, s.holding.toField)).lookup r =
      (slots.find? (·.name == r)).map (·.holding.toField) := by
  induction slots with
  | nil => rfl
  | cons s rest ih =>
    rw [List.map_cons, List.lookup_cons, List.find?_cons, BEq.comm]
    split <;> simp [ih]

/-- A field holds what the slot of its name holds. -/
theorem Heap.IsOf.field?_storeOf (isOf : h.IsOf m owners) (x : Nat) (r : String) :
    (storeOf owners h).field? x r = (h.holding? x r).map Holding.toField := by
  simp only [Store.field?, storeOf, List.getElem?_zipWith, Heap.holding?, Heap.slot?]
  cases there : h.object? x with
  | none =>
    rw [Heap.object?] at there
    simp [there]
  | some o =>
    obtain ⟨owner, owned⟩ := isOf.owned there
    rw [Heap.object?] at there
    simp [there, owned, Object.toInstance, lookup_fields, Object.slot?, Function.comp_def]

/-- A slot of an object is a field in the store. -/
theorem Heap.IsOf.field?_of_slot (isOf : h.IsOf m owners) (found : h.slot? x r = some s) :
    (storeOf owners h).field? x r = some s.holding.toField := by
  rw [isOf.field?_storeOf, Heap.holding?_of_slot found, Option.map_some]

/-- An object of a heap is an instance of its class in the store. -/
theorem getElem?_storeOf {o : Object} (there : h.object? x = some o)
    (owned : owners[x]? = some owner) : (storeOf owners h)[x]? = some (o.toInstance owner) := by
  rw [Heap.object?] at there
  simp [storeOf, List.getElem?_zipWith, there, owned]

/-- An object that holds what it held is the same. -/
theorem Object.IsOf.hold_self {o : Object} (isOf : o.IsOf m owner) (named : o.slot? r = some s) :
    o.hold r s.holding = o := by
  have slots : (o.slots.map fun s' => if s'.name == r then { s' with holding := s.holding } else s') =
      o.slots := by
    refine (List.map_congr_left fun s' there => ?_).trans (List.map_id _)
    by_cases same : s'.name = r
    · obtain rfl := isOf.slot_eq named there same
      simp
    · simp [same]
  rw [Object.hold, slots]

/-- Writing to a slot what it holds changes nothing. -/
theorem Heap.IsOf.hold_self (isOf : h.IsOf m owners) (found : h.slot? x r = some s) :
    h.hold x r s.holding = h := by
  obtain ⟨o, there, named⟩ := Option.bind_eq_some_iff.1 found
  obtain ⟨owner, owned⟩ := isOf.owned there
  have same := (isOf.isOf x owner o owned there).hold_self named
  have objects : h.objects.modify x (·.hold r s.holding) = h.objects := by
    refine List.ext_getElem? fun i => ?_
    rw [List.getElem?_modify]
    by_cases here : x = i
    · subst here
      rw [Heap.object?] at there
      simp [there, same]
    · simp [here]
  rw [Heap.hold, Heap.modify, objects]

end ClassDiagram.Objects
