import ClassDiagram.Proofs.Draft.Moves

/-!
# Drafts that are linked

After linking, everything that a draft remembers is of the tree as it is (`IsSound.linkAll`), and asking for targets
or looking up names keeps it so (`IsCurrent.mapPointers`, `IsCurrent.keepIndex`): what is found and kept is what
would be found again.
-/

set_option autoImplicit false

namespace ClassDiagram

namespace Draft

/-! ## References -/

namespace Pointer

variable (p : Pointer)

/-- Forgetting the target of a pointer does not change whether it is absent. -/
@[simp] theorem isAbsent_reset : p.reset.isAbsent = p.isAbsent := by
  obtain ⟨_, _, aim⟩ := p
  cases aim <;> rfl

/-- Linking a pointer does not change whether it is absent. -/
@[simp] theorem isAbsent_linked : p.linked.isAbsent = p.isAbsent := isAbsent_reset p

/-- Forgetting the target of a pointer leaves its name. -/
@[simp] theorem name_reset : p.reset.name = p.name := by
  obtain ⟨_, _, aim⟩ := p
  cases aim <;> rfl

/-- Forgetting the target of a pointer does not change whether it is linked. -/
@[simp] theorem isLinked_reset : p.reset.isLinked = p.isLinked := by
  obtain ⟨_, _, aim⟩ := p
  cases aim <;> rfl

/-- A reference that was forgotten has no target that was looked up. -/
theorem aim_reset_ne_settled (found : Option Origin) : p.reset.aim ≠ .settled found := by
  obtain ⟨_, _, aim⟩ := p
  cases aim <;> simp [reset]

/-- A pointer that is open has an unknown aim. -/
theorem aim_of_isOpen {p : Pointer} (unread : p.isOpen = true) : p.aim = .unknown := by
  obtain ⟨_, _, aim⟩ := p
  rw [isOpen, Bool.and_eq_true] at unread
  cases aim with
  | unknown => rfl
  | settled found => exact absurd unread.2 Bool.false_ne_true
  | given target => exact absurd unread.2 Bool.false_ne_true
  | absent => exact absurd unread.2 Bool.false_ne_true

end Pointer

variable {d d' : Draft} {path : Path} {e : Element Handle Pointer} {around : List (Element Handle Pointer)}
  {owner : Origin} {field : RefField}

/-- Following a pointer does not change whether it is absent. -/
@[simp] theorem isAbsent_settled (p : Pointer) : (d.settled owner field p).isAbsent = p.isAbsent := by
  rw [settled]
  split
  · next isOpen =>
    rw [Pointer.isAbsent, Pointer.isAbsent, Pointer.aim_of_isOpen isOpen]
    rfl
  · rfl

/-- Following a pointer leaves its name. -/
@[simp] theorem name_settled (p : Pointer) : (d.settled owner field p).name = p.name := by
  rw [settled]
  split <;> rfl

/-- Following a pointer does not change whether it is linked. -/
@[simp] theorem isLinked_settled (p : Pointer) : (d.settled owner field p).isLinked = p.isLinked := by
  rw [settled]
  split <;> rfl

/-! ## Linking -/

/-- A draft is sound if it has the origins, the additions and the given values of a sound one and is complete. -/
theorem IsSound.of_origins (sound : d.IsSound)
    (origins : d'.elements.map (·.place.origin) = d.elements.map (·.place.origin))
    (complete : ∀ e ∈ d'.elements, IsComplete e) (additions : d'.additions = d.additions)
    (given : d'.given = d.given) : d'.IsSound := by
  refine ⟨origins ▸ sound.apart, fun e there => ?_, complete, given ▸ sound.named⟩
  have among : e.place.origin ∈ d.elements.map (·.place.origin) := origins ▸ List.mem_map_of_mem there
  obtain ⟨e', there', same⟩ := List.mem_map.1 among
  rw [← same, additions]
  exact sound.known e' there'

/-- Whether all that a draft remembers is of its tree: every element what it is in, every reference that it was
linked and what its name leads to, and the index, if there is one, the names of the tree. -/
structure IsCurrent (d : Draft) : Prop where
  sound : d.IsSound
  placed : d.IsPlaced
  linked : ∀ e ∈ d.model.elements, ∀ r ∈ e.references, r.2.2.isLinked = true
  settled : ∀ e ∈ d.model.elements, ∀ r ∈ e.references, ∀ found, r.2.2.aim = .settled found →
    found = d.lookUpGiven e.place.origin r.1 r.2.2.name

/-- Nothing keeps a sound draft from being linked. -/
theorem IsSound.link_eq (sound : d.IsSound) : d.link = (.ok (), d.linkAll) := by
  have none : d.linkStop? = none := by
    rw [linkStop?, List.findSome?_eq_none_iff]
    intro e there
    rw [List.findSome?_eq_none_iff]
    intro r among
    simp [sound.present e (mem_elements_of_tree there) r among]
  rw [link, none]
  rfl

/-- An element as it is after linking: it knows what it is in. -/
def settledHandle (d : Draft) (h : Handle) : Handle := ⟨h.origin, d.positions.holderOf h.origin⟩

/-- Linking a draft settles the handles of its elements and links their pointers. -/
theorem model_linkAll (d : Draft) :
    d.linkAll.model = d.model.map d.settledHandle fun _ _ _ p => p.linked := rfl

/-- Linking leaves a draft sound. -/
theorem IsSound.isSound_linkAll (sound : d.IsSound) : d.linkAll.IsSound := by
  refine sound.of_origins ?_ (fun e there => ?_) rfl rfl
  · rw [elements, elements, model_linkAll, Model.elements_map, List.map_append, List.map_append, List.map_map]
    congr 1
    refine List.map_congr_left fun e _ => ?_
    rw [Function.comp_apply, Element.place_map]
    rfl
  · rcases List.mem_append.1 there with inside | outside
    · rw [model_linkAll] at inside
      refine Model.forall_references_map (P := fun _ r => r.2.2.isAbsent = false) |>.2
        (fun e' there' r among => ?_) e inside
      exact (Pointer.isAbsent_linked r.2.2).trans (sound.present e' (mem_elements_of_tree there') r among)
    · exact sound.present e (List.mem_append_right _ outside)

/-- Linking makes all that a draft remembers be of its tree. -/
theorem IsSound.linkAll (sound : d.IsSound) : d.linkAll.IsCurrent where
  sound := sound.isSound_linkAll
  placed := by
    refine ⟨fun there => ?_, fun i kept => absurd kept (by simp [Draft.linkAll])⟩
    rw [model_linkAll] at there
    obtain ⟨e, around, inside, rfl, rfl⟩ := there.of_map
    rw [Element.place_map]
    rw [nearestOf_map (f := d.settledHandle) fun _ => rfl]
    exact sound.holderOf_positions inside
  linked := by
    rw [model_linkAll, Model.forall_references_map]
    exact fun _ _ _ _ => rfl
  settled := by
    rw [model_linkAll]
    refine Model.forall_references_map.2 fun _ _ r _ found aim => ?_
    exact absurd aim (Pointer.aim_reset_ne_settled r.2.2 found)

/-! ## Looking up -/

/-- What a name leads to from an element of a draft does not depend on the references. -/
theorem IsCurrent.lookUp_eq (current : d.IsCurrent) (there : d.model.At path e around) (kinds : List Kind)
    (name : String) :
    d.lookUp (.element e.place.origin) kinds name = lookUpIn d.model (e :: around) kinds name :=
  Draft.lookUp_eq current.sound current.placed there kinds name

/-- Two drafts find the same for a reference where a name leads to the same in their trees. -/
theorem lookUpGiven_congr {owner' : Origin} (same : ∀ name,
    d.lookUp (.element owner) field.kinds name = d'.lookUp (.element owner') field.kinds name)
    (given : Document) : d.lookUpGiven owner field given = d'.lookUpGiven owner' field given := by
  cases given with
  | text name => rw [lookUpGiven, lookUpGiven, same]
  | _ => rfl

/-! ## Asking and forgetting -/

/-- Whether references change only by being asked for and by being forgotten. -/
def OnlyReads (d : Draft) (g : Handle → RefField → Nat → Pointer → Pointer) : Prop :=
  ∀ h field i p, g h field i p = p ∨ g h field i p = p.reset ∨ g h field i p = d.settled h.origin field p

section

variable {g : Handle → RefField → Nat → Pointer → Pointer} (reads : d.OnlyReads g)
include reads

/-- What only reads pointers does not change whether they are absent. -/
theorem OnlyReads.isAbsent_eq (h : Handle) (field : RefField) (i : Nat) (p : Pointer) :
    (g h field i p).isAbsent = p.isAbsent := by
  rcases reads h field i p with same | forgotten | asked
  · rw [same]
  · rw [forgotten, Pointer.isAbsent_reset]
  · rw [asked, isAbsent_settled]

/-- What only reads pointers does not change whether they are linked. -/
theorem OnlyReads.isLinked_eq (h : Handle) (field : RefField) (i : Nat) (p : Pointer) :
    (g h field i p).isLinked = p.isLinked := by
  rcases reads h field i p with same | forgotten | asked
  · rw [same]
  · rw [forgotten, Pointer.isLinked_reset]
  · rw [asked, isLinked_settled]

/-- What only reads pointers leaves their names. -/
theorem OnlyReads.name_eq (h : Handle) (field : RefField) (i : Nat) (p : Pointer) :
    (g h field i p).name = p.name := by
  rcases reads h field i p with same | forgotten | asked
  · rw [same]
  · rw [forgotten, Pointer.name_reset]
  · rw [asked, name_settled]

/-- A reference that has a target after reading had it before or was asked for. -/
theorem OnlyReads.of_settled {h : Handle} {i : Nat} {p : Pointer} {found : Option Origin}
    (aim : (g h field i p).aim = .settled found) :
    p.aim = .settled found ∨ found = d.lookUpGiven h.origin field p.name := by
  rcases reads h field i p with same | forgotten | asked
  · rw [same] at aim
    exact .inl aim
  · rw [forgotten] at aim
    exact absurd aim (p.aim_reset_ne_settled found)
  · rw [asked, settled] at aim
    split at aim
    · exact .inr (Aim.settled.inj aim).symm
    · exact .inl aim

end

section

variable {g : Handle → RefField → Nat → Pointer → Pointer}

/-- Changing the pointers of a draft changes those of its elements and nothing else. -/
theorem elements_mapPointers (d : Draft) (g : Handle → RefField → Nat → Pointer → Pointer) :
    (d.mapPointers g).elements = d.elements.map (·.map id g) := by
  rw [elements, elements, mapPointers, Model.elements_map, List.map_append, List.flatMap_map, List.map_flatMap]
  congr 1
  exact List.flatMap_congr fun e _ => Element.all_map id g e

/-- What only reads the pointers of a draft leaves it sound. -/
theorem IsSound.mapPointers (sound : d.IsSound) (reads : d.OnlyReads g) : (d.mapPointers g).IsSound := by
  refine sound.of_origins ?_ ?_ rfl rfl
  · rw [elements_mapPointers, List.map_map]
    refine List.map_congr_left fun e _ => ?_
    rw [Function.comp_apply, Element.place_map]
    rfl
  · rw [elements_mapPointers, List.forall_mem_map]
    intro e there
    rw [IsComplete, Element.references_map, List.forall_mem_map]
    exact fun r among => (reads.isAbsent_eq _ _ _ _).trans (sound.present e there r among)

/-- Reading and forgetting references keeps all that a draft remembers of its tree. -/
theorem IsCurrent.mapPointers (current : d.IsCurrent) (reads : d.OnlyReads g) :
    (d.mapPointers g).IsCurrent := by
  have sound := current.sound.mapPointers reads
  have model : (d.mapPointers g).model = d.model.map id g := rfl
  have directory := directoryOf_map (f := id) (g := g) (fun _ => rfl) d.model
  have placed : (d.mapPointers g).IsPlaced := by
    refine ⟨fun there => ?_, fun i kept => ?_⟩
    · rw [model] at there
      obtain ⟨e, around, inside, rfl, rfl⟩ := there.of_map
      rw [Element.place_map]
      rw [nearestOf_map (f := id) fun _ => rfl]
      exact current.placed.holders inside
    · rw [current.placed.index i kept, current.sound.freshIndex_eq, sound.freshIndex_eq, model]
      exact congrArg (fun m : Directory Entry => Index.mk m.tree []) directory.symm
  refine ⟨sound, placed, ?_, ?_⟩
  · rw [model, Model.forall_references_map]
    exact fun e there r among => (reads.isLinked_eq _ _ _ _).trans (current.linked e there r among)
  · rw [model]
    refine Model.forall_references_map.2 fun e there r among found aim => ?_
    obtain ⟨path, around, inside⟩ := Model.mem_elements_iff.1 there
    have same (name : String) : d.lookUp (.element e.place.origin) r.1.kinds name =
        (d.mapPointers g).lookUp (.element e.place.origin) r.1.kinds name := by
      have after := Draft.lookUp_eq sound placed (inside.map id g) r.1.kinds name
      rw [Element.place_map] at after
      rw [current.lookUp_eq inside]
      refine Eq.trans ?_ after.symm
      exact (lookUpIn_map (f := id) (g := g) (fun _ => rfl) d.model (e :: around) r.1.kinds name).symm
    rw [Element.place_map]
    refine Eq.trans ?_ (lookUpGiven_congr same _)
    rw [reads.name_eq]
    rcases reads.of_settled aim with before | now
    · exact current.settled e there r among found before
    · exact now

end

/-- What a draft remembers of its tree does not depend on what is outside the tree, but for the index. -/
theorem IsCurrent.of_model (current : d.IsCurrent) (sound : d'.IsSound) (same : d'.model = d.model)
    (index : ∀ i, d'.index = some i → i = d'.freshIndex) : d'.IsCurrent := by
  have placed : d'.IsPlaced := ⟨by rw [same]; exact current.placed.holders, index⟩
  refine ⟨sound, placed, by rw [same]; exact current.linked, fun e there r among found aim => ?_⟩
  rw [same] at there
  obtain ⟨path, around, inside⟩ := Model.mem_elements_iff.1 there
  refine (current.settled e there r among found aim).trans (lookUpGiven_congr (fun name => ?_) _)
  rw [current.lookUp_eq inside, ← same]
  exact (Draft.lookUp_eq sound placed (same ▸ inside) _ name).symm

/-- An index may be kept that is that of the tree. -/
theorem IsCurrent.withIndex (current : d.IsCurrent) {i : Index} (own : i = d.freshIndex) :
    ({ d with index := some i } : Draft).IsCurrent :=
  current.of_model (current.sound.withIndex _) rfl fun _ kept => (Option.some.inj kept).symm.trans own

/-- Keeping the index leaves a draft current. -/
theorem IsCurrent.keepIndex (current : d.IsCurrent) : d.keepIndex.IsCurrent := by
  refine current.withIndex ?_
  rw [current.sound.currentIndex_eq current.placed, current.sound.freshIndex_eq]

/-! ## Accesses -/

/-- Following some of the pointers of a draft only reads them. -/
theorem onlyReads_settle (d : Draft) (chosen : Choice) : d.OnlyReads fun h field i p =>
    if chosen h.origin field i then d.settled h.origin field p else p := by
  intro h field i p
  by_cases asked : chosen h.origin field i = true
  · exact .inr (.inr (if_pos asked))
  · exact .inl (if_neg asked)

/-- Forgetting the target of a pointer only reads it. -/
theorem onlyReads_forget (d : Draft) (origin : Origin) (field : RefField) (index : Nat) :
    d.OnlyReads fun h f i p => if h.origin == origin && f == field && i == index then p.reset else p := by
  intro h f i p
  by_cases here : (h.origin == origin && f == field && i == index) = true
  · exact .inr (.inl (if_pos here))
  · exact .inl (if_neg here)

/-- Following some of its pointers leaves a draft sound. -/
theorem IsSound.settle (sound : d.IsSound) (chosen : Choice) : (d.settle chosen).IsSound := by
  have after := sound.mapPointers (onlyReads_settle d chosen)
  unfold Draft.settle
  split
  · exact after.withIndex _
  · exact after

/-- Asking for targets keeps a draft current. -/
theorem IsCurrent.settle (current : d.IsCurrent) (chosen : Choice) : (d.settle chosen).IsCurrent := by
  have after := current.mapPointers (onlyReads_settle d chosen)
  unfold Draft.settle
  split
  · refine after.withIndex ?_
    rw [current.sound.currentIndex_eq current.placed, after.sound.freshIndex_eq]
    exact congrArg (fun m : Directory Entry => Index.mk m.tree [])
      (directoryOf_map (f := id) (fun _ => rfl) d.model).symm
  · exact after

end Draft

end ClassDiagram
