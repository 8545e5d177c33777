import ClassDiagram.Proofs.Objects.World

/-!
# What accessors guarantee

In a model without errors, for every clear world that calls from outside lead to as long as they suit their
members: the two sides of an association agree (`held_on_both_sides`), a call changes the links of its
association as asked for and nothing else (`call_changes_links`), and it is refused where there is no such
accessor, and otherwise done after a few entries (`call_is_refused_or_done`).

Each of the three fails where a class outside the model has two members of one name: a house of the lodgings
keeps its visitors in the slot that its tenant should be in.
-/

set_option autoImplicit false

namespace ClassDiagram.Objects.World

variable {w : World} {owner other : LinkedType} {d f : AssociationMember} {c : Call}

/-! ## Both sides -/

/-- An association between two classes has a member at either of them. -/
theorem member_of_ends {m : Linked} (rooted : m.IsRooted) {a : LinkedType} (among : a ∈ m.associations)
    {far near : LinkedProperty} (ends : a.ends = [far, near] ∨ a.ends = [near, far])
    (isClass : owner ∈ m.everyClass) (atNear : isEndAt near owner.key = true)
    (otherIsClass : other ∈ m.everyClass) (atFar : isEndAt far other.key = true) :
    (⟨owner, far, near⟩ : AssociationMember) ∈ m.associationMembers owner ∧
      (⟨owner, far, near⟩ : AssociationMember).isBidirectional = true ∧
      (⟨owner, far, near⟩ : AssociationMember).target.map (·.key) = some other.key := by
  obtain ⟨t, found, same⟩ := isEndAt_iff.1 atNear
  obtain ⟨t', found', same'⟩ := isEndAt_iff.1 atFar
  obtain rfl := rooted.told a among near (mem_ends ends.symm) t found owner (Linked.mem_everyClass.1 isClass).1 same
  have member : (⟨owner, far, near⟩ : AssociationMember) ∈ m.associationMembers owner := by
    refine (rooted.mem_associationMembers isClass).2 ⟨rfl, ?_, found, a, among, ends⟩
    simp [AssociationMember.target, found']
  refine ⟨member, ?_, ?_⟩
  · exact (rooted.opposite_member isClass member otherIsClass found' same').1
  · simp [AssociationMember.target, found', same']

/-- Whether the two sides of every association agree: of two objects of the classes at its ends one holds
the other one if and only if the other one holds it at the opposite end.  No object is held twice in one
place, and only objects are held that there are. -/
structure AgreesOnBothSides (w : World) (m : Linked) : Prop where
  both : ∀ a ∈ m.associations, ∀ first second, a.ends = [first, second] →
    ∀ x y left right, w.owners[x]? = some left → w.owners[y]? = some right →
      isEndAt first left.key = true → isEndAt second right.key = true →
      ∃ s t, w.heap.slot? x second.name = some s ∧ w.heap.slot? y first.name = some t ∧
        (y ∈ s.holding.values ↔ x ∈ t.holding.values)
  nodup : ∀ x r, (w.heap.values x r).Nodup
  known : ∀ x r, ∀ v ∈ w.heap.values x r, v < w.owners.length

/-- Between two calls from outside the two sides of every association agree. -/
theorem held_on_both_sides {m : Linked} (rooted : m.IsRooted) (valid : m.IsValid) {w : World}
    (reachable : Reachable m w) (clear : w.IsClear m) : w.AgreesOnBothSides m := by
  have sound := reachable.isSound rooted valid clear
  refine ⟨?_, sound.paired.nodup, fun x r v held => sound.on.values_lt held⟩
  intro a among first second ends x y left right ownedX ownedY atFirst atSecond
  have isClass := sound.classes left (List.mem_of_getElem? ownedX)
  have isClass' := sound.classes right (List.mem_of_getElem? ownedY)
  obtain ⟨member, bidirectional, leads⟩ :=
    member_of_ends rooted among (.inr ends) isClass atFirst isClass' atSecond
  have dual := sound.dual rooted ownedX member valid bidirectional ⟨right, ownedY, fun _ => leads⟩
  obtain ⟨s, t, hs, ht, _, _⟩ := dual.faces
  have both := sound.paired.mem_iff dual
  rw [Heap.values_of_slot hs, Heap.values_of_slot ht] at both
  exact ⟨s, t, hs, ht, both⟩

/-- The player changes the team. -/
theorem held_on_both_sides_after_transfer :
    Reachable club.link (season.call ⟨2, .set, "team", some 1⟩) ∧
      (season.call ⟨2, .set, "team", some 1⟩).AgreesOnBothSides club.link ∧
      (season.call ⟨2, .set, "team", some 1⟩).heap.values 1 "players" = [2] := by
  have reachable : Reachable club.link (season.call ⟨2, .set, "team", some 1⟩) :=
    .call season_reachable (by decide +kernel)
  exact ⟨reachable, held_on_both_sides club_isRooted club_isValid reachable (isClear_of_no_strays rfl _),
    by decide +kernel⟩

/-- The tenant holds the house as home, but the house does not hold the tenant. -/
theorem lodgings_not_held_on_both_sides :
    lodgings.IsLinked ∧ lodgings.view.IsValid ∧ Reachable lodgings.view (viewing.call movingIn) ∧
      ¬ (viewing.call movingIn).AgreesOnBothSides lodgings.view := by
  refine ⟨lodgings_isLinked, lodgings_isValid, .call viewing_reachable (by decide +kernel), fun agrees => ?_⟩
  let rents : LinkedType := lodgings.view.associations.get ⟨0, by decide +kernel⟩
  obtain ⟨s, t, home, ofHouse, both⟩ := agrees.both rents (List.get_mem ..) homeOfTenant.opposite homeOfTenant.far rfl
    0 1 tenant houseOutside rfl rfl (by decide +kernel) (by decide +kernel)
  rw [← Heap.values_of_slot home, ← Heap.values_of_slot ofHouse] at both
  revert both
  decide +kernel

/-! ## Links -/

section Member

variable {m : Linked} {x : Nat} (sound : w.IsSound m) (rooted : m.IsRooted) (valid : m.IsValid)
  (owned : w.owners[x]? = some owner) (member : d ∈ m.associationMembers owner)
  (bidirectional : d.isBidirectional = true)
include sound rooted valid owned member bidirectional

/-- The objects at the far end of a member hold its links under the name of the opposite end. -/
theorem IsSound.links_iff {q : Nat} (owned' : w.owners[q]? = some other)
    (atFar : isEndAt d.far other.key = true) (p : Nat) :
    p ∈ w.heap.values q d.opposite.name ↔ w.links d p q := by
  have isClass := sound.classes owner (List.mem_of_getElem? owned)
  have isClass' := sound.classes other (List.mem_of_getElem? owned')
  obtain ⟨same, _, typed, _⟩ := (rooted.mem_associationMembers isClass).1 member
  obtain ⟨t, found, key⟩ := isEndAt_iff.1 atFar
  obtain ⟨_, member', bidirectional'⟩ := rooted.opposite_member isClass member isClass' found key
  constructor
  · intro held
    have accepts := sound.accepts owned' member' held
    obtain ⟨near, owned'', leads, _⟩ := sound.opposite rooted owned' member' bidirectional' accepts
    have isClass'' := sound.classes near (List.mem_of_getElem? owned'')
    -- The near object is of the class of the member, since that is the class that the far end names.
    have key' : near.key = owner.key :=
      congrArg Target.key (Option.some.inj (leads.symm.trans typed))
    obtain rfl : near = owner :=
      rooted.type_eq (Linked.mem_everyClass.1 isClass'').1 (Linked.mem_everyClass.1 isClass).1 key'
    have dual := sound.dual rooted owned' member' valid bidirectional' accepts
    exact ⟨same ▸ owned'', sound.paired.mem_symm dual held⟩
  · rintro ⟨owned'', held⟩
    rw [same] at owned''
    have dual := sound.dual rooted owned'' member valid bidirectional (sound.accepts owned'' member held)
    exact sound.paired.mem_symm dual held

end Member

/-- Whether the slot of an object is for a member that belongs to an association. -/
def IsSlotOf (w : World) (m : Linked) (association : Option LinkedType) (p : Nat) (r : String) : Prop :=
  ∃ other, w.owners[p]? = some other ∧
    ∃ f ∈ m.associationMembers other, f.name = r ∧ m.associationOf? f.far = association

section Call

variable {m : Linked} (sound : w.IsSound m) (rooted : m.IsRooted) (valid : m.IsValid)
  (owned : w.owners[c.receiver]? = some owner) (member : d ∈ m.associationMembers owner)
  (named : d.name = c.role) (bidirectional : d.isBidirectional = true)
  (accepts : ∀ v ∈ c.argument, w.Accepts d v)
include sound rooted valid owned member named bidirectional accepts

/-- A call leaves the world with the links that it asks for, and with entries. -/
theorem IsSound.heap_call (fits : c.kind.fits d.isList = true) :
    ∃ es, w.heap.perform c = .done ((w.heap.linkedBy c d.opposite.name).recordAll es) := by
  obtain ⟨x, kind, _, argument⟩ := c
  obtain rfl := named
  obtain ⟨h', es, _, done, links, _⟩ := sound.performs rooted valid owned member fits accepts
  obtain rfl := links bidirectional
  exact ⟨es, done⟩

/-- The links of a member after a call. -/
theorem IsSound.links_linkedBy (fits : c.kind.fits d.isList = true) {p : Nat}
    (owned' : w.owners[p]? = some owner) (q : Nat) :
    q ∈ (w.heap.linkedBy c d.opposite.name).values p d.name ↔
      c.after (!d.opposite.isList) (fun p q => q ∈ w.heap.values p d.name) p q := by
  have admits := sound.admits rooted owned member valid bidirectional fits accepts
  have calls := sound.calls owned' member bidirectional
  rw [named] at admits calls ⊢
  refine sound.paired.mem_values_linkedBy admits (fun v given => ?_) calls
  obtain ⟨other, ownedV, _, member', _⟩ :=
    sound.opposite rooted owned member bidirectional (accepts v given)
  obtain ⟨s, found, same⟩ := sound.slot ownedV member'
  change w.heap.slot? v d.opposite.name = some s at found
  rw [Heap.isSingle_of_slot found, isList_of_emptied same]
  simp [AssociationMember.isList]

/-- A call changes no role of another association. -/
theorem IsSound.holding?_linkedBy {p : Nat} (owned' : w.owners[p]? = some other)
    (member' : f ∈ m.associationMembers other)
    (apart : m.associationOf? f.far ≠ m.associationOf? d.far) :
    (w.heap.linkedBy c d.opposite.name).holding? p f.name = w.heap.holding? p f.name := by
  have isClass := sound.classes owner (List.mem_of_getElem? owned)
  obtain ⟨_, _, _, a, among, ends⟩ := (rooted.mem_associationMembers isClass).1 member
  have same : m.associationOf? d.opposite = m.associationOf? d.far := by
    rw [rooted.associationOf?_eq among (mem_ends ends),
      rooted.associationOf?_eq among (mem_ends ends.symm)]
  have opposite (v : Nat) (accepted : w.Accepts d v) :
      w.IsSlotOf m (m.associationOf? d.far) v d.opposite.name := by
    obtain ⟨other, owned', _, member', _⟩ := sound.opposite rooted owned member bidirectional accepted
    exact ⟨other, owned', _, member', rfl, same⟩
  -- All slots that the call writes are of the one association.
  refine Heap.holding?_linkedBy (w.IsSlotOf m (m.associationOf? d.far)) ?_ ?_ ?_ ?_ ?_ ?_
  · rw [← named]
    exact sound.distinct rooted owned member valid
  · exact ⟨owner, owned, d, member, named, rfl⟩
  · intro old held
    rw [← named] at held
    exact opposite old (sound.accepts owned member held)
  · exact fun v given => opposite v (accepts v given)
  · intro v given u held
    obtain ⟨other, owned', _, member', bidirectional'⟩ :=
      sound.opposite rooted owned member bidirectional (accepts v given)
    obtain ⟨third, owned'', _, member'', _⟩ :=
      sound.opposite rooted owned' member' bidirectional' (sound.accepts owned' member' held)
    exact ⟨third, owned'', _, member'', named, rfl⟩
  · rintro ⟨other', owned'', f', member'', sameName, sameAssociation⟩
    obtain rfl := Option.some.inj (owned'.symm.trans owned'')
    obtain rfl := sound.member_eq owned' member'' member' sameName
    exact apart sameAssociation

end Call

/-- What a call on a member with an opposite end does: it is done, and afterwards there are the links that
it asks for (`Call.after`), which the objects at the far end hold too.  Where it finds nothing to change it
changes nothing, and it changes no role of another association. -/
structure ChangesLinks (w : World) (m : Linked) (c : Call) (d : AssociationMember) : Prop where
  done : ∃ h', w.heap.perform c = .done h'
  links : ∀ p q, (w.call c).links d p q ↔ c.after (!d.opposite.isList) (w.links d) p q
  far : ∀ q other, w.owners[q]? = some other → isEndAt d.far other.key = true →
    ∀ p, p ∈ (w.call c).heap.values q d.opposite.name ↔ (w.call c).links d p q
  idle : c.IsIdle w.heap → ∀ p r, (w.call c).heap.holding? p r = w.heap.holding? p r
  others : ∀ p other f, w.owners[p]? = some other → f ∈ m.associationMembers other →
    m.associationOf? f.far ≠ m.associationOf? d.far →
    (w.call c).heap.holding? p f.name = w.heap.holding? p f.name

/-- A call that suits a member with an opposite end changes the links as asked for, and nothing else. -/
theorem call_changes_links {m : Linked} (rooted : m.IsRooted) (valid : m.IsValid) {w : World}
    (reachable : Reachable m w) (clear : w.IsClear m) {c : Call} {owner : LinkedType} {d : AssociationMember}
    (owned : w.owners[c.receiver]? = some owner) (member : d ∈ m.associationMembers owner)
    (named : d.name = c.role) (bidirectional : d.isBidirectional = true)
    (fits : c.kind.fits d.isList = true) (accepts : ∀ v ∈ c.argument, w.Accepts d v) :
    w.ChangesLinks m c d := by
  have sound := reachable.isSound rooted valid clear
  have isClass := sound.classes owner (List.mem_of_getElem? owned)
  have same := ((rooted.mem_associationMembers isClass).1 member).1
  obtain ⟨es, done⟩ := sound.heap_call rooted valid owned member named bidirectional accepts fits
  have slots (y : Nat) (r : String) :
      (w.call c).heap.slot? y r = (w.heap.linkedBy c d.opposite.name).slot? y r := by
    rw [World.call, done, Outcome.heap, Heap.slot?_recordAll]
  have holdings (y : Nat) (r : String) :
      (w.call c).heap.holding? y r = (w.heap.linkedBy c d.opposite.name).holding? y r := by
    rw [Heap.holding?, slots, Heap.holding?]
  refine ⟨⟨_, done⟩, ?_, ?_, ?_, ?_⟩
  · intro p q
    by_cases near : w.owners[p]? = some d.owner
    · have changed := sound.links_linkedBy rooted valid owned member named bidirectional accepts fits
        (same ▸ near) q
      have before : w.links d p q ↔ q ∈ w.heap.values p d.name := and_iff_right near
      have after : (w.call c).links d p q ↔
          q ∈ (w.heap.linkedBy c d.opposite.name).values p d.name := by
        rw [Heap.values, ← holdings]
        exact and_iff_right near
      rw [after, changed]
      exact (Call.after_congr before).symm
    · -- An object of another class has no such links before the call, and gets none by it.
      have receiver : p ≠ c.receiver := by
        rintro rfl
        exact near (owned.trans (congrArg some same.symm))
      have before : ¬ w.links d p q := fun linked => near linked.1
      have after : ¬ (w.call c).links d p q := fun linked => near linked.1
      refine iff_of_false after fun asked => ?_
      unfold Call.after at asked
      split at asked <;> simp_all
  · intro q other owned' atFar p
    have sound' := sound.call rooted valid (c := c) ⟨owner, owned, d, member, named, fits, accepts⟩
    exact sound'.links_iff rooted valid owned member bidirectional owned' atFar p
  · intro idle p r
    rw [holdings, Heap.linkedBy_of_idle idle]
  · intro p other f owned' member' apart
    rw [holdings]
    exact sound.holding?_linkedBy rooted valid owned member named bidirectional accepts owned' member'
      apart

/-- The player changes the team, and the first team loses the player. -/
theorem call_changes_links_of_player :
    season.Suits club.link ⟨2, .set, "team", some 1⟩ ∧
      season.ChangesLinks club.link ⟨2, .set, "team", some 1⟩ teamOfPlayer ∧
      (season.call ⟨2, .set, "team", some 1⟩).heap.values 0 "players" = [] := by
  have owned : season.owners[2]? = some clubPlayer := rfl
  refine ⟨by decide +kernel, ?_, by decide +kernel⟩
  have clear : season.IsClear club.link := isClear_of_no_strays rfl season
  exact call_changes_links club_isRooted club_isValid season_reachable clear owned (List.get_mem ..)
    (by decide +kernel) (by decide +kernel) (by decide +kernel) (by decide +kernel)

/-- The tenant takes the house as home and holds it, but the house does not get the tenant. -/
theorem lodgings_links_not_changed :
    lodgings.IsLinked ∧ lodgings.view.IsValid ∧ Reachable lodgings.view viewing ∧
      viewing.owners[movingIn.receiver]? = some tenant ∧ homeOfTenant ∈ lodgings.view.associationMembers tenant ∧
      homeOfTenant.name = movingIn.role ∧ homeOfTenant.isBidirectional = true ∧
      movingIn.kind.fits homeOfTenant.isList = true ∧ (∀ v ∈ movingIn.argument, viewing.Accepts homeOfTenant v) ∧
      1 ∈ (viewing.call movingIn).heap.values 0 homeOfTenant.name ∧
      0 ∉ (viewing.call movingIn).heap.values 1 homeOfTenant.opposite.name ∧
      ¬ viewing.ChangesLinks lodgings.view movingIn homeOfTenant := by
  have held : 1 ∈ (viewing.call movingIn).heap.values 0 homeOfTenant.name := by decide +kernel
  have missing : 0 ∉ (viewing.call movingIn).heap.values 1 homeOfTenant.opposite.name := by decide +kernel
  refine ⟨lodgings_isLinked, lodgings_isValid, viewing_reachable, rfl, List.get_mem .., by decide +kernel,
    by decide +kernel, by decide +kernel, by decide +kernel, held, missing, fun changes => ?_⟩
  have both := changes.far 1 houseOutside rfl (by decide +kernel) 0
  exact missing (both.2 ⟨rfl, held⟩)

/-! ## Calls that fail -/

/-- Whether the receiver of a call has a member of the name and of the kind that the call is for. -/
def Offers (w : World) (m : Linked) (c : Call) : Prop :=
  ∃ owner ∈ w.owners[c.receiver]?, ∃ d ∈ m.associationMembers owner,
    d.name = c.role ∧ c.kind.fits d.isList = true

instance (w : World) (m : Linked) (c : Call) : Decidable (w.Offers m c) :=
  inferInstanceAs (Decidable (∃ owner ∈ w.owners[c.receiver]?, ∃ d ∈ m.associationMembers owner, _))

/-- Whether a call is for a change, and passes nothing or what every member of its name accepts. -/
structure IsDecent (w : World) (m : Linked) (c : Call) : Prop where
  changes : c.kind = .set ∨ c.kind = .addTo ∨ c.kind = .removeFrom
  receiver : c.receiver < w.owners.length
  accepts : ∀ owner ∈ w.owners[c.receiver]?, ∀ d ∈ m.associationMembers owner, d.name = c.role →
    ∀ v ∈ c.argument, w.Accepts d v

/-- A call is refused, before it changes anything, if its receiver has no member of the name and kind that
it is for.  Otherwise it is done, so that no call that it makes is refused, and all of these calls together
leave seven entries at most. -/
theorem call_is_refused_or_done {m : Linked} (rooted : m.IsRooted) (valid : m.IsValid) {w : World}
    (reachable : Reachable m w) (clear : w.IsClear m) {c : Call} (decent : w.IsDecent m c) :
    (¬ w.Offers m c → ∃ e, e ≠ .noObject ∧ w.heap.perform c = .failed w.heap e) ∧
      (w.Offers m c → ∃ h', w.heap.perform c = .done h' ∧
        (∀ (y : Nat) (before : List String), w.heap.traces[y]? = some before →
          ∃ added, h'.traces[y]? = some (added ++ before)) ∧
        (h'.traces.map List.length).sum ≤ (w.heap.traces.map List.length).sum + 7) := by
  have sound := reachable.isSound rooted valid clear
  obtain ⟨owner, owned⟩ : ∃ owner, w.owners[c.receiver]? = some owner :=
    ⟨_, List.getElem?_eq_getElem decent.receiver⟩
  constructor
  · -- The object has slots for the members of its class only, so the accessor finds none that fits.
    intro missing
    have there : c.receiver < w.heap.objects.length := sound.on.length.symm ▸ decent.receiver
    obtain ⟨n, enough⟩ := Nat.exists_eq_add_of_le' w.heap.eight_le_enoughFuel
    rw [Heap.perform, enough]
    refine Heap.run_refuses _ (List.getElem?_eq_getElem there) decent.changes fun s found => ?_
    obtain ⟨d, member, named, same⟩ := sound.member_of_slot owned found
    rw [isList_of_emptied same]
    by_contra fits
    exact missing ⟨owner, owned, d, member, named, by simpa using fits⟩
  · rintro ⟨owner, owned', d, member, named, fits⟩
    have accepts := decent.accepts owner owned' d member named
    obtain ⟨x, kind, _, argument⟩ := c
    obtain rfl := named
    obtain ⟨h', es, count, done, links, writes⟩ :=
      sound.performs rooted valid owned' member fits accepts
    -- What the call does to slots leaves no entries; all entries are recorded at the end.
    have traces : h'.traces = w.heap.traces := by
      cases bidirectional : d.isBidirectional with
      | true => rw [links bidirectional, Heap.traces_linkedBy]
      | false => exact (writes bidirectional).traces
    have added := Heap.traceCount_recordAll h' es
    refine ⟨_, done, fun y before there => ?_, ?_⟩
    · exact Heap.traces_recordAll h' es y (traces ▸ there)
    · rw [traces] at added
      omega

/-- The player changes the team, and has no list of teams to add to. -/
theorem call_is_refused_or_done_in_season :
    (∃ e, e ≠ .noObject ∧
      season.heap.perform ⟨2, .addTo, "team", some 1⟩ = .failed season.heap e) ∧
    ∃ h', season.heap.perform ⟨2, .set, "team", some 1⟩ = .done h' ∧
      (∀ (y : Nat) (before : List String), season.heap.traces[y]? = some before →
        ∃ added, h'.traces[y]? = some (added ++ before)) ∧
      (h'.traces.map List.length).sum ≤ (season.heap.traces.map List.length).sum + 7 := by
  have wrong : season.IsDecent club.link ⟨2, .addTo, "team", some 1⟩ :=
    ⟨by decide, by decide, by decide +kernel⟩
  have right : season.IsDecent club.link ⟨2, .set, "team", some 1⟩ :=
    ⟨by decide, by decide, by decide +kernel⟩
  have clear : season.IsClear club.link := isClear_of_no_strays rfl season
  exact ⟨(call_is_refused_or_done club_isRooted club_isValid season_reachable clear wrong).1 (by decide +kernel),
    (call_is_refused_or_done club_isRooted club_isValid season_reachable clear right).2 (by decide +kernel)⟩

/-- The tenant has a home to set, but the call is not done: it fails after it has written. -/
theorem lodgings_not_refused_or_done :
    lodgings.IsLinked ∧ lodgings.view.IsValid ∧ Reachable lodgings.view viewing ∧
      viewing.IsDecent lodgings.view movingIn ∧ viewing.Offers lodgings.view movingIn ∧
      (viewing.call movingIn).heap.values 0 "home" = [1] ∧
      ¬ ∃ h', viewing.heap.perform movingIn = .done h' := by
  refine ⟨lodgings_isLinked, lodgings_isValid, viewing_reachable,
    ⟨by decide, by decide, by decide +kernel⟩, by decide +kernel, by decide +kernel, ?_⟩
  rintro ⟨h', done⟩
  have failed : viewing.heap.perform movingIn =
      .failed (viewing.call movingIn).heap (.multiValued "House" "tenant") := by
    decide +kernel
  rw [failed] at done
  cases done

end ClassDiagram.Objects.World
