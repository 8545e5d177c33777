import ClassDiagram.Proofs.Draft.View
import ClassDiagram.Proofs.Model.Associations
import ClassDiagram.Proofs.Objects.Calls
import ClassDiagram.Proofs.Objects.Members

/-!
# Worlds of objects

All objects of a model with their classes, from nothing on, after any number of creations and calls that
suit the members that they are for.  In a model without errors every such world is sound: the objects have
the slots of their classes, what they hold is of the classes that the members are for, and every link that
calls back is held on both sides.

A check of a model finds members of one name in its own classes only.  An end may have been bound to a class
outside, which may have two members of one name, and one slot for both; worlds with objects of such a class
are not clear (`World.IsClear`), and nothing is said of them.

A call changes a sound world in one of two ways (`IsSound.performs`): as `Heap.linkedBy` says, if the
member has an opposite end, and otherwise in the slot of its receiver alone.
-/

set_option autoImplicit false

namespace ClassDiagram.Objects

/-- Objects, with the classes that they were created of. -/
structure World where
  heap : Heap
  owners : List LinkedType

namespace World

/-- No objects. -/
def empty : World := ⟨.empty, []⟩

/-- The world with a new object of a class. -/
def create (w : World) (m : Linked) (owner : LinkedType) : World :=
  ⟨w.heap.create m owner, w.owners ++ [owner]⟩

/-- The world after a call and all calls that it makes, also if one of them failed. -/
def call (w : World) (c : Call) : World := ⟨(w.heap.perform c).heap, w.owners⟩

/-- Whether an object may be passed for a member: one of the class that the member is for, or any one if
the member is for objects of no class. -/
def Accepts (w : World) (d : AssociationMember) (v : Nat) : Prop :=
  ∃ other ∈ w.owners[v]?, d.isBidirectional = true → d.target.map (·.key) = some other.key

/-- Whether a call suits a member of the class of its receiver: by name, by kind, and by what it passes. -/
def Suits (w : World) (m : Linked) (c : Call) : Prop :=
  ∃ owner ∈ w.owners[c.receiver]?, ∃ d ∈ m.associationMembers owner,
    d.name = c.role ∧ c.kind.fits d.isList = true ∧ ∀ v ∈ c.argument, w.Accepts d v

/-- The links of a member: an object of the class that has it and one that it holds there. -/
def links (w : World) (d : AssociationMember) (p q : Nat) : Prop :=
  w.owners[p]? = some d.owner ∧ q ∈ w.heap.values p d.name

instance (w : World) (d : AssociationMember) (v : Nat) : Decidable (w.Accepts d v) :=
  inferInstanceAs (Decidable (∃ other ∈ w.owners[v]?, _ → _))

instance (w : World) (m : Linked) (c : Call) : Decidable (w.Suits m c) :=
  inferInstanceAs (Decidable (∃ owner ∈ w.owners[c.receiver]?, ∃ d ∈ m.associationMembers owner, _))

/-- The worlds after creations of objects of any classes, those outside the packages of the model too, and calls
that suit their members. -/
inductive Reachable (m : Linked) : World → Prop where
  | empty : Reachable m empty
  | create {w : World} {owner : LinkedType} (before : Reachable m w) (isClass : owner ∈ m.everyClass) :
    Reachable m (w.create m owner)
  | call {w : World} {c : Call} (before : Reachable m w) (suits : w.Suits m c) : Reachable m (w.call c)

/-- Whether no object is of a class outside the packages of a model that has two members of one name. -/
def IsClear (w : World) (m : Linked) : Prop :=
  ∀ owner ∈ w.owners, owner ∈ m.strays → ((m.associationMembers owner).map (·.name)).Nodup

/-- What holds of a world between two calls from outside. -/
structure IsSound (w : World) (m : Linked) : Prop where
  classes : ∀ owner ∈ w.owners, owner ∈ m.everyClass
  names : ∀ owner ∈ w.owners, ((m.associationMembers owner).map (·.name)).Nodup
  on : w.heap.On w.owners.length
  shapes : ∀ {x owner}, w.owners[x]? = some owner → ∀ r, w.heap.shape? x r =
    ((m.associationMembers owner).find? (·.name == r)).map Slot.ofMember
  accepts : ∀ {x owner d v}, w.owners[x]? = some owner → d ∈ m.associationMembers owner →
    v ∈ w.heap.values x d.name → w.Accepts d v
  paired : w.heap.Paired

variable {m : Linked} {w : World} {c : Call} {owner other : LinkedType} {x v : Nat}
  {d f : AssociationMember} {r : String}

/-- An object that may be passed for a member may be passed once there is a new object. -/
theorem Accepts.create (accepts : w.Accepts d v) (owner : LinkedType) : (w.create m owner).Accepts d v := by
  obtain ⟨other, owned, same⟩ := accepts
  refine ⟨other, ?_, same⟩
  have lt : v < w.owners.length := (List.getElem?_eq_some_iff.1 owned).1
  rw [World.create, List.getElem?_append_left lt]
  exact owned

/-! ## New objects -/

/-- A world without objects is sound. -/
theorem isSound_empty (m : Linked) : empty.IsSound m := by
  have none (x : Nat) (r : String) : Heap.empty.slot? x r = none := rfl
  refine ⟨by simp [empty], by simp [empty], ⟨rfl, ?_⟩, by simp [empty], by simp [empty], ⟨?_, ?_⟩⟩
  · intro x r v held
    simp [empty, Heap.values, Heap.holding?, none] at held
  · intro x r
    simp [empty, Heap.values, Heap.holding?, none]
  · intro x r s o b v found
    simp [empty, none] at found

/-- A sound world stays sound with a new object of a class whose members have different names. -/
theorem IsSound.create (sound : w.IsSound m) (isClass : owner ∈ m.everyClass)
    (names : ((m.associationMembers owner).map (·.name)).Nodup) : (w.create m owner).IsSound m := by
  have count : (w.create m owner).owners.length = w.owners.length + 1 := by simp [World.create]
  have values (y : Nat) (r : String) : (w.create m owner).heap.values y r = w.heap.values y r :=
    Heap.values_add ..
  refine ⟨?_, ?_, ⟨?_, ?_⟩, ?_, ?_, sound.paired.add _ _⟩
  · exact List.forall_mem_append.2 ⟨sound.classes, List.forall_mem_singleton.2 isClass⟩
  · exact List.forall_mem_append.2 ⟨sound.names, List.forall_mem_singleton.2 names⟩
  · simp [World.create, Heap.create, Heap.add, sound.on.length]
  · intro y r v held
    rw [values] at held
    have := sound.on.values_lt held
    omega
  · intro y o owned r
    simp only [World.create] at owned
    simp only [World.create, Heap.shape?, Heap.create, Heap.slot?_add, sound.on.length]
    -- The new object has the last number.
    by_cases last : y = w.owners.length
    · subst last
      obtain rfl : owner = o := by simpa using owned
      rw [if_pos rfl]
      exact shape_slotsOf names r
    · rw [if_neg last]
      rw [List.getElem?_append_left (by have := (List.getElem?_eq_some_iff.1 owned).1; simp at this; omega)]
        at owned
      exact sound.shapes owned r
  · intro y o d v owned member held
    rw [values] at held
    have lt : y < w.owners.length := by
      obtain ⟨s, found⟩ := Heap.slot?_of_mem_values held
      exact sound.on.length ▸ Heap.lt_of_slot? found
    simp only [World.create] at owned
    rw [List.getElem?_append_left lt] at owned
    exact (sound.accepts owned member held).create owner

/-! ## The slots of a sound world -/

/-- A class has one member of a name. -/
theorem IsSound.member_eq (sound : w.IsSound m) (owned : w.owners[x]? = some owner)
    (first : f ∈ m.associationMembers owner) (member : d ∈ m.associationMembers owner)
    (same : f.name = d.name) : f = d :=
  List.inj_on_of_nodup_map (sound.names owner (List.mem_of_getElem? owned)) first member same

/-- An object of a sound world has a slot for each member of its class. -/
theorem IsSound.slot (sound : w.IsSound m) (owned : w.owners[x]? = some owner)
    (member : d ∈ m.associationMembers owner) :
    ∃ s, w.heap.slot? x d.name = some s ∧ s.emptied = Slot.ofMember d := by
  have found : (m.associationMembers owner).find? (·.name == d.name) = some d := by
    refine find?_eq_some_of_unique member (beq_self_eq_true _) fun d' member' same => ?_
    exact sound.member_eq owned member' member (beq_iff_eq.1 same)
  have shape := sound.shapes owned d.name
  rw [found] at shape
  exact Option.map_eq_some_iff.1 shape

/-- A slot of an object is that of a member of its class. -/
theorem IsSound.member_of_slot (sound : w.IsSound m) (owned : w.owners[x]? = some owner) {s : Slot}
    (found : w.heap.slot? x r = some s) :
    ∃ d ∈ m.associationMembers owner, d.name = r ∧ s.emptied = Slot.ofMember d := by
  have shape := sound.shapes owned r
  rw [Heap.shape?, found, Option.map_some] at shape
  obtain ⟨d, there, same⟩ := Option.map_eq_some_iff.1 shape.symm
  exact ⟨d, List.mem_of_find?_eq_some there, by simpa using List.find?_some there, same.symm⟩

/-- A slot of the shape of a member is for a list exactly if the member is. -/
theorem isList_of_emptied {s : Slot} (same : s.emptied = Slot.ofMember d) :
    s.holding.isList = d.isList := by
  rw [Slot.isList_of_emptied (same.trans (Slot.emptied_ofMember d).symm), Slot.isList_ofMember]

/-- A slot of the shape of a member with an opposite end calls back that end. -/
theorem faces_of_emptied {s : Slot} (same : s.emptied = Slot.ofMember d)
    (bidirectional : d.isBidirectional = true) : s.Faces d.opposite.name d.opposite.isList := by
  have empty : (Slot.ofMember d).Faces d.opposite.name d.opposite.isList :=
    ⟨AssociationMember.onAttach_of_isBidirectional bidirectional,
      AssociationMember.onDetach_of_isBidirectional bidirectional⟩
  exact empty.of_emptied ((Slot.emptied_ofMember d).trans same.symm)

/-- The slot of a member with an opposite end calls back that end. -/
theorem IsSound.calls (sound : w.IsSound m) (owned : w.owners[x]? = some owner)
    (member : d ∈ m.associationMembers owner) (bidirectional : d.isBidirectional = true) :
    w.heap.Calls x d.name d.opposite.name := by
  obtain ⟨s, found, same⟩ := sound.slot owned member
  exact ⟨s, _, found, faces_of_emptied same bidirectional⟩

section Members

variable (sound : w.IsSound m) (rooted : m.IsRooted) (owned : w.owners[x]? = some owner)
  (member : d ∈ m.associationMembers owner)
include sound rooted owned member

/-- The names of a member and of its opposite end are different. -/
theorem IsSound.distinct (valid : m.IsValid) : d.name ≠ d.opposite.name := by
  have isClass := sound.classes owner (List.mem_of_getElem? owned)
  obtain ⟨_, _, _, a, among, ends⟩ := (rooted.mem_associationMembers isClass).1 member
  have names := valid.end_names_nodup among
  rcases ends with ends | ends
  · simpa [ends, AssociationMember.name] using names
  · simpa [ends, AssociationMember.name, eq_comm] using names

/-- An object that a member is for has the opposite member, and its class is that of the member. -/
theorem IsSound.opposite (bidirectional : d.isBidirectional = true) (accepts : w.Accepts d v) :
    ∃ other, w.owners[v]? = some other ∧ d.target = some other.target ∧
      (⟨other, d.opposite, d.far⟩ : AssociationMember) ∈ m.associationMembers other ∧
      (⟨other, d.opposite, d.far⟩ : AssociationMember).isBidirectional = true := by
  obtain ⟨other, owned', leads⟩ := accepts
  have isClass := sound.classes owner (List.mem_of_getElem? owned)
  have otherIsClass := sound.classes other (List.mem_of_getElem? owned')
  obtain ⟨t, found, same⟩ := Option.map_eq_some_iff.1 (leads bidirectional)
  obtain ⟨_, member', bidirectional'⟩ := rooted.opposite_member isClass member otherIsClass found same
  obtain ⟨_, _, typed, _⟩ := (rooted.mem_associationMembers otherIsClass).1 member'
  exact ⟨other, owned', typed, member', bidirectional'⟩

/-- The object of a member is one that the opposite member is for. -/
theorem IsSound.accepts_back (other : LinkedType) :
    w.Accepts (⟨other, d.opposite, d.far⟩ : AssociationMember) x := by
  have isClass := sound.classes owner (List.mem_of_getElem? owned)
  obtain ⟨_, _, typed, _⟩ := (rooted.mem_associationMembers isClass).1 member
  refine ⟨owner, owned, fun _ => ?_⟩
  rw [AssociationMember.target, typed]
  rfl

/-- The slots of a member and of its opposite end are dual. -/
theorem IsSound.dual (valid : m.IsValid) (bidirectional : d.isBidirectional = true)
    (accepts : w.Accepts d v) : w.heap.Dual x d.name v d.opposite.name := by
  obtain ⟨other, owned', _, member', bidirectional'⟩ :=
    sound.opposite rooted owned member bidirectional accepts
  obtain ⟨s, hs, same⟩ := sound.slot owned member
  obtain ⟨t, ht, same'⟩ := sound.slot owned' member'
  refine ⟨sound.distinct rooted owned member valid, s, t, hs, ht, ?_, ?_⟩
  · rw [isList_of_emptied same']
    exact faces_of_emptied same bidirectional
  · rw [isList_of_emptied same]
    exact faces_of_emptied same' bidirectional'

/-- A call that suits a member with an opposite end finds what it needs on both sides. -/
theorem IsSound.admits (valid : m.IsValid) (bidirectional : d.isBidirectional = true)
    {kind : AccessorKind} (fits : kind.fits d.isList = true) {argument : Option Nat}
    (accepts : ∀ v ∈ argument, w.Accepts d v) :
    w.heap.Admits ⟨x, kind, d.name, argument⟩ d.opposite.name := by
  obtain ⟨s, found, same⟩ := sound.slot owned member
  refine ⟨sound.distinct rooted owned member valid,
    sound.calls owned member bidirectional, fun s' found' => ?_, fun v given => ?_⟩
  · obtain rfl : s = s' := Option.some.inj (found.symm.trans found')
    rwa [isList_of_emptied same]
  · exact sound.dual rooted owned member valid bidirectional (accepts v given)

end Members

/-! ## Calls -/

/-- What a call that suits a member is and does: it is done after at most seven entries, and links as
`Heap.linkedBy` says, or writes the slot of its receiver alone. -/
theorem IsSound.performs (sound : w.IsSound m) (rooted : m.IsRooted) (valid : m.IsValid)
    (owned : w.owners[x]? = some owner) (member : d ∈ m.associationMembers owner) {kind : AccessorKind}
    (fits : kind.fits d.isList = true) {argument : Option Nat} (accepts : ∀ v ∈ argument, w.Accepts d v) :
    ∃ (h' : Heap) (es : List Heap.Entry), es.length ≤ 7 ∧
      w.heap.perform ⟨x, kind, d.name, argument⟩ = .done (h'.recordAll es) ∧
      (d.isBidirectional = true → h' = w.heap.linkedBy ⟨x, kind, d.name, argument⟩ d.opposite.name) ∧
      (d.isBidirectional = false → h'.WrittenAt w.heap x d.name) := by
  cases bidirectional : d.isBidirectional with
  | true =>
    have settled := Heap.settles_linkedBy sound.paired
      (sound.admits rooted owned member valid bidirectional fits accepts)
    obtain ⟨es, count, done⟩ := settled.perform (by omega)
    exact ⟨_, es, count, done, fun _ => rfl, by simp⟩
  | false =>
    obtain ⟨s, found, same⟩ := sound.slot owned member
    obtain ⟨attach, detach⟩ := AssociationMember.calls_of_not_isBidirectional bidirectional
    have silent : s.attach = none ∧ s.detach = none :=
      ⟨(congrArg (·.attach) same).trans attach, (congrArg (·.detach) same).trans detach⟩
    obtain ⟨h', settled, written⟩ := Heap.settles_alone (c := ⟨x, kind, d.name, argument⟩) sound.paired
      found silent (by rwa [isList_of_emptied same])
    obtain ⟨es, count, done⟩ := settled.perform (by omega)
    exact ⟨h', es, by omega, done, by simp, fun _ => written⟩

/-- What the slots hold after a call on a member with an opposite end suits their members. -/
theorem IsSound.accepts_linkedBy (sound : w.IsSound m) (rooted : m.IsRooted) (valid : m.IsValid)
    (owned : w.owners[x]? = some owner) (member : d ∈ m.associationMembers owner)
    (bidirectional : d.isBidirectional = true) {kind : AccessorKind}
    (fits : kind.fits d.isList = true) {argument : Option Nat} (accepts : ∀ v ∈ argument, w.Accepts d v)
    {y : Nat} (owned' : w.owners[y]? = some other) (member' : f ∈ m.associationMembers other)
    (held : v ∈ (w.heap.linkedBy ⟨x, kind, d.name, argument⟩ d.opposite.name).values y f.name) :
    w.Accepts f v := by
  have admits := sound.admits rooted owned member valid bidirectional fits accepts
  rcases Heap.mem_values_of_linkedBy admits held with old | ⟨rfl, same, given⟩ | ⟨given, same, rfl⟩
  · exact sound.accepts owned' member' old
  · obtain rfl : owner = other := Option.some.inj (owned.symm.trans owned')
    obtain rfl := sound.member_eq owned member' member same
    exact accepts v given
  · obtain ⟨_, owned'', _, opposite, _⟩ :=
      sound.opposite rooted owned member bidirectional (accepts y given)
    obtain rfl := Option.some.inj (owned'.symm.trans owned'')
    obtain rfl := sound.member_eq owned' member' opposite same
    exact sound.accepts_back rooted owned member other

/-- The same for a member without an opposite end. -/
theorem IsSound.accepts_writtenAt (sound : w.IsSound m)
    (owned : w.owners[x]? = some owner) (member : d ∈ m.associationMembers owner)
    (single : d.isBidirectional = false) {h' : Heap} (written : h'.WrittenAt w.heap x d.name)
    {y : Nat} (owned' : w.owners[y]? = some other) (member' : f ∈ m.associationMembers other)
    (held : v ∈ h'.values y f.name) (known : v < w.owners.length) : w.Accepts f v := by
  by_cases here : y = x ∧ f.name = d.name
  · obtain ⟨rfl, same⟩ := here
    obtain rfl : owner = other := Option.some.inj (owned.symm.trans owned')
    obtain rfl := sound.member_eq owned member' member same
    exact ⟨w.owners[v], by simp, by simp [single]⟩
  · refine sound.accepts owned' member' ?_
    rwa [Heap.values, written.holding y f.name here] at held

/-- A sound world stays sound after a call that suits its member. -/
theorem IsSound.call (sound : w.IsSound m) (rooted : m.IsRooted) (valid : m.IsValid)
    (suits : w.Suits m c) : (w.call c).IsSound m := by
  obtain ⟨x, kind, _, argument⟩ := c
  obtain ⟨owner, owned, d, member, rfl, fits, accepts⟩ := suits
  obtain ⟨h', es, _, done, links, writes⟩ := sound.performs rooted valid owned member fits accepts
  -- What is held is known from the run, also for a member whose values are of no class.
  have on : (w.heap.perform ⟨x, kind, d.name, argument⟩).heap.On w.owners.length := by
    refine (run_staysOn _ sound.on _ (List.getElem?_eq_some_iff.1 owned).1 fun v given => ?_).heap
    obtain ⟨other, owned', _⟩ := accepts v given
    exact (List.getElem?_eq_some_iff.1 owned').1
  have after : w.call ⟨x, kind, d.name, argument⟩ = ⟨h'.recordAll es, w.owners⟩ := by
    rw [World.call, done, Outcome.heap]
  rw [done] at on
  rw [after]
  cases bidirectional : d.isBidirectional with
  | true =>
    obtain rfl := links bidirectional
    have admits := sound.admits rooted owned member valid bidirectional fits accepts
    refine ⟨sound.classes, sound.names, on, fun owned' r => ?_, fun owned' member' held => ?_,
      (sound.paired.linkedBy admits).recordAll es⟩
    · rw [← sound.shapes owned' r, Heap.shape?_recordAll, Heap.shape?_linkedBy]
    · rw [Heap.values_recordAll] at held
      exact sound.accepts_linkedBy rooted valid owned member bidirectional fits accepts owned' member' held
  | false =>
    have written := writes bidirectional
    refine ⟨sound.classes, sound.names, on, fun owned' r => ?_, fun owned' member' held => ?_,
      written.paired.recordAll es⟩
    · rw [← sound.shapes owned' r, Heap.shape?_recordAll, written.shape]
    · have known := on.values_lt held
      rw [Heap.values_recordAll] at held
      exact sound.accepts_writtenAt owned member bidirectional written owned' member' held known

/-- Where no errors are found, the members of the class of an object in a clear world have different names. -/
theorem IsClear.names_nodup (clear : w.IsClear m) (valid : m.IsValid) (there : owner ∈ w.owners)
    (isClass : owner ∈ m.everyClass) : ((m.associationMembers owner).map (·.name)).Nodup :=
  (Linked.mem_classes_or_strays isClass).elim valid.names_nodup (clear owner there)

/-- Objects are created of classes of the model and of classes outside. -/
theorem Reachable.mem_everyClass (reachable : Reachable m w) (there : owner ∈ w.owners) : owner ∈ m.everyClass := by
  induction reachable with
  | empty => cases there
  | create _ isClass ih => exact (List.mem_append.1 there).elim ih fun last => List.mem_singleton.1 last ▸ isClass
  | call _ _ ih => exact ih there

/-- Every clear world that is reached in a model without errors is sound. -/
theorem Reachable.isSound (rooted : m.IsRooted) (valid : m.IsValid) (reachable : Reachable m w)
    (clear : w.IsClear m) : w.IsSound m := by
  induction reachable with
  | empty => exact isSound_empty m
  | create _ isClass ih =>
    have sound := ih fun o there => clear o (List.mem_append_left _ there)
    exact sound.create isClass (clear.names_nodup valid (by simp [World.create]) isClass)
  | call _ suits ih => exact (ih clear).call rooted valid suits

/-- Every world of a model without classes outside is clear. -/
theorem isClear_of_no_strays (none : m.strays = []) (w : World) : w.IsClear m := by
  simp [IsClear, none]

/-! ## A season of the club -/

/-- The types and the ends of the club are known apart. -/
theorem club_isRooted : club.link.IsRooted := club.link_isCoherent.isRooted

/-- The club has no errors. -/
theorem club_isValid : club.link.IsValid := by
  decide +kernel

/-- The class of teams. -/
def clubTeam : LinkedType := club.link.classes.get ⟨0, by decide +kernel⟩

/-- The class of players. -/
def clubPlayer : LinkedType := club.link.classes.get ⟨1, by decide +kernel⟩

/-- The member of players for their team. -/
def teamOfPlayer : AssociationMember :=
  (club.link.associationMembers clubPlayer).get ⟨0, by decide +kernel⟩

/-- Two teams and a player, who is in the first one. -/
def season : World :=
  (((empty.create club.link clubTeam).create club.link clubTeam).create club.link clubPlayer).call
    ⟨0, .addTo, "players", some 2⟩

/-- The world of the season can be reached. -/
theorem season_reachable : Reachable club.link season := by
  refine .call (.create (.create (.create .empty ?_) ?_) ?_) (by decide +kernel)
  · exact Linked.mem_everyClass_of_mem_classes (List.get_mem ..)
  · exact Linked.mem_everyClass_of_mem_classes (List.get_mem ..)
  · exact Linked.mem_everyClass_of_mem_classes (List.get_mem ..)

/-! ## Lodgings outside -/

open Draft

/-- Tenants, who have a home and visit other lodgings, of a class that is not named. -/
def lodging : Declared :=
  ⟨[⟨(), "lodging", [],
    [⟨(), "Tenant", .classBody ⟨false, [], [], [], []⟩⟩,
      ⟨(), "rents", .association
        [⟨(), "tenant", some "Tenant", .number 0, .number 1, none, false, .plain⟩,
          ⟨(), "home", none, .number 0, .number 1, none, false, .plain⟩]⟩,
      ⟨(), "visits", .association
        [⟨(), "tenant", some "Tenant", .number 0, .unbounded, none, false, .plain⟩,
          ⟨(), "visited", none, .number 0, .unbounded, none, false, .plain⟩]⟩]⟩]⟩

/-- A class of houses. -/
def house : Element Unit String := .classifier ⟨(), "House", .classBody ⟨false, [], [], [], []⟩⟩

/-- A reference that is bound to the class of houses, which stays outside. -/
def toHouse : Pointer :=
  .towards (.text "House") (.element ((ofDeclared lodging).newElement house).place.origin)

/-- The far end from the tenant of an association of the lodgings, by the position of the association. -/
def lodgingEnd (association : Nat) : Holder :=
  .element ⟨0, [.package 0, .type association, .associationEnd 1]⟩

/-- The lodgings with both associations bound to the class of houses. -/
def boundLodgings : Draft :=
  (((ofDeclared lodging).addAside house).setType (lodgingEnd 1) (some toHouse)).setType (lodgingEnd 2)
    (some toHouse)

/-- The same, linked. -/
def lodgings : Draft := boundLodgings.linkAll

/-- The lodgings are linked. -/
theorem lodgings_isLinked : lodgings.IsLinked := by
  have present : ∀ p ∈ some toHouse, p.isAbsent = false := by decide
  have history : Evolves (ofDeclared lodging) boundLodgings :=
    ((Relation.ReflTransGen.single (.edit (.addAside _ _))).tail (.edit (.setType _ _ present))).tail
      (.edit (.setType _ _ present))
  exact .link (.declared lodging) history (history.isSound (isCurrent_ofDeclared lodging).sound).link_eq

/-- The lodgings have no errors. -/
theorem lodgings_isValid : lodgings.view.IsValid := by
  decide +kernel

/-- The class of tenants. -/
def tenant : LinkedType := lodgings.view.classes.get ⟨0, by decide +kernel⟩

/-- The class of houses, which stands outside the packages. -/
def houseOutside : LinkedType := lodgings.view.strays.get ⟨0, by decide +kernel⟩

/-- The tenant is a class of the lodgings. -/
theorem tenant_mem_everyClass : tenant ∈ lodgings.view.everyClass :=
  Linked.mem_everyClass_of_mem_classes (List.get_mem ..)

/-- The house outside the packages is a class of the lodgings. -/
theorem houseOutside_mem_everyClass : houseOutside ∈ lodgings.view.everyClass :=
  Linked.mem_everyClass.2 ⟨List.mem_append_right _ (List.get_mem ..), rfl⟩

/-- A tenant and a house.  The house has a slot for the tenants that visit it and none for the one that has it
as home, since its class has two members of one name. -/
def viewing : World := (empty.create lodgings.view tenant).create lodgings.view houseOutside

/-- The world of the viewing can be reached. -/
theorem viewing_reachable : Reachable lodgings.view viewing :=
  .create (.create .empty tenant_mem_everyClass) houseOutside_mem_everyClass

/-- The call for the tenant to take the house as home. -/
def movingIn : Call := ⟨0, .set, "home", some 1⟩

/-- The member of tenants for their home. -/
def homeOfTenant : AssociationMember :=
  (lodgings.view.associationMembers tenant).get ⟨0, by decide +kernel⟩

end World

end ClassDiagram.Objects
