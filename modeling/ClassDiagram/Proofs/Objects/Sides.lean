import ClassDiagram.Proofs.Objects.Guarantees

/-!
# Links from either side

A link may be begun, and ended, by an accessor of either object.  The two accessors are different ones as
soon as one end is for a list, and they write in another order, but they leave the same contents in all
slots (`same_from_either_side`).

Both sides give up what is in the way and then begin the link.  The links that are given up are in four
different slots, so it does not matter which side goes first (`Paired.evict_comm`).
-/

set_option autoImplicit false

namespace ClassDiagram.Objects

namespace Heap

variable {h : Heap} {x y v p u : Nat} {r o q n : String}

/-- What all objects hold, without the accessors that ran. -/
def contents (h : Heap) : List (String × List Slot) := h.objects.map fun o => (o.className, o.slots)

/-- Entries in the traces change nothing that any object holds. -/
theorem contents_recordAll (h : Heap) (es : List Entry) : (h.recordAll es).contents = h.contents := by
  have step (h : Heap) (x : Nat) (kind : AccessorKind) (r : String) :
      (h.record x kind r).contents = h.contents := by
    refine List.ext_getElem? fun i => ?_
    simp only [contents, record, modify, List.getElem?_map, List.getElem?_modify, Option.map_eq_map,
      Option.map_map]
    refine Option.map_congr fun object _ => ?_
    simp only [Function.comp]
    split <;> rfl
  induction es generalizing h with
  | nil => rfl
  | cons e rest ih =>
    have later := ih (h.record e.1 e.2.1 e.2.2)
    rw [step] at later
    exact later

/-! ## Links that are given up -/

/-- A link that ends and a change of a third slot can be made in either order. -/
theorem adjust_part (first : ¬ (x = p ∧ r = q)) (second : ¬ (y = p ∧ o = q)) (f : Holding → Holding) :
    (h.part x r y o).adjust p q f = (h.adjust p q f).part x r y o := by
  rw [part, adjust_comm _ second, adjust_comm h first, part]

/-- Links in four different slots end in any order. -/
theorem part_comm_part (near : ¬ (x = p ∧ r = q)) (cross : ¬ (y = p ∧ o = q)) (cross' : ¬ (x = u ∧ r = n))
    (far : ¬ (y = u ∧ o = n)) :
    (h.part x r y o).part p q u n = (h.part p q u n).part x r y o := by
  calc (h.part x r y o).part p q u n
      = ((h.part x r y o).adjust p q (·.without u)).adjust u n (·.without p) := rfl
    _ = ((h.adjust p q (·.without u)).part x r y o).adjust u n (·.without p) := by
      rw [adjust_part near cross]
    _ = (h.part p q u n).part x r y o := adjust_part cross' far _

/-- A slot gives up its link as its contents say, or it has none to give up. -/
theorem evict_cases (h : Heap) (x : Nat) (r : String) :
    (∃ old, old ∈ h.values x r ∧
        ∀ g o, g.holding? x r = h.holding? x r → evict g x r o = g.part x r old o) ∨
      ∀ g o, g.holding? x r = h.holding? x r → evict g x r o = g := by
  by_cases occupied : ∃ old, h.holding? x r = some (.one (some old))
  · obtain ⟨old, held⟩ := occupied
    refine .inl ⟨old, by simp [values, held, Holding.values], fun g o same => ?_⟩
    simp [evict, same, held]
  · refine .inr fun g o same => ?_
    unfold evict
    split
    · next old held => exact absurd ⟨old, same ▸ held⟩ occupied
    · rfl

/-- A slot keeps its contents when a link is given up that it is not part of. -/
theorem holding?_evict_of_ne (distinct : r ≠ o) (new : v ∉ h.values x r) :
    (h.evict x r o).holding? v o = h.holding? v o := by
  let touched (p : Nat) (q : String) : Prop := ¬ (p = v ∧ q = o)
  have self : touched x r := fun same => distinct same.2
  have olds : ∀ old ∈ h.values x r, touched old o := by
    rintro old held ⟨rfl, _⟩
    exact new held
  exact holding?_evict self olds (not_not_intro ⟨rfl, rfl⟩)

/-- Two objects that are not linked give up what is in the way of their link in any order. -/
theorem Paired.evict_comm (paired : h.Paired) (dual : h.Dual x r v o) (new : v ∉ h.values x r) :
    (h.evict x r o).evict v o r = (h.evict v o r).evict x r o := by
  have new' : x ∉ h.values v o := fun held => new (paired.mem_symm dual.symm held)
  have keepV := holding?_evict_of_ne dual.distinct new
  have keepX := holding?_evict_of_ne dual.distinct.symm new'
  rcases evict_cases h x r with ⟨old, held, parts⟩ | keeps
  · rcases evict_cases h v o with ⟨u, held', parts'⟩ | keeps'
    · -- The slots of the two links: that of each object, and that of its old partner.
      have partner : old ≠ v := fun same => new (same ▸ held)
      have partner' : u ≠ x := fun same => new' (same ▸ held')
      rw [parts' _ r keepV, parts h o rfl, parts _ o keepX, parts' h r rfl]
      exact part_comm_part dual.slot_ne (fun same => partner same.1) (fun same => partner' same.1.symm)
        fun same => dual.distinct same.2.symm
    · rw [keeps' _ r keepV, keeps' h r rfl]
  · rw [keeps h o rfl, keeps _ o keepX]

/-! ## Calls from either side -/

/-- A link that starts is the same from either side. -/
theorem join_comm (ne : ¬ (x = v ∧ r = o)) : h.join x r v o = h.join v o x r :=
  adjust_comm h ne _ _

/-- A slot for a list need not be vacated. -/
theorem evict_of_isList {s : Slot} (found : h.slot? x r = some s) (isList : s.holding.isList = true)
    (o : String) : h.evict x r o = h := by
  unfold evict
  rw [holding?_of_slot found]
  cases held : s.holding with
  | one value => simp [held, Holding.isList] at isList
  | many values => rfl

/-- The accessor that links, of whichever kind it is, makes room on both sides and begins the link. -/
theorem linkedBy_linking (new : v ∉ h.values x r) {s : Slot}
    (found : h.slot? x r = some s) :
    h.linkedBy ⟨x, if s.holding.isList then .addTo else .set, r, some v⟩ o =
      ((h.evict x r o).evict v o r).join x r v o := by
  cases isList : s.holding.isList with
  | false => simp [linkedBy, new]
  | true =>
    rw [evict_of_isList found isList]
    simp [linkedBy, new]

/-- A call to link what is linked already changes nothing. -/
theorem linkedBy_linking_linked (held : v ∈ h.values x r) (isList : Bool) :
    h.linkedBy ⟨x, if isList then .addTo else .set, r, some v⟩ o = h := by
  cases isList <;> simp [linkedBy, held]

/-- The accessor that unlinks ends the link. -/
theorem linkedBy_unlinking (held : v ∈ h.values x r) {s : Slot} (found : h.slot? x r = some s) :
    h.linkedBy ⟨x, if s.holding.isList then .removeFrom else .set, r,
      if s.holding.isList then some v else none⟩ o = h.part x r v o := by
  cases isList : s.holding.isList with
  | true => simp [linkedBy, held]
  | false =>
    obtain ⟨value, single⟩ := (isSingle_of_slot found).2 isList
    obtain rfl : value = some v := by
      cases value with
      | none => simp [values, single, Holding.values] at held
      | some old => simpa [values, single, Holding.values, eq_comm] using held
    simp [linkedBy, evict, single]

variable {s t : Slot} (paired : h.Paired) (dual : h.Dual x r v o) (near : h.slot? x r = some s)
  (far : h.slot? v o = some t)
include paired dual near far

/-- The calls to link two objects, on the one and on the other, leave the same links. -/
theorem Paired.linkedBy_linking_comm :
    h.linkedBy ⟨x, if s.holding.isList then .addTo else .set, r, some v⟩ o =
      h.linkedBy ⟨v, if t.holding.isList then .addTo else .set, o, some x⟩ r := by
  by_cases linked : v ∈ h.values x r
  · rw [linkedBy_linking_linked linked, linkedBy_linking_linked (paired.mem_symm dual linked)]
  · have linked' : x ∉ h.values v o := fun held => linked (paired.mem_symm dual.symm held)
    rw [linkedBy_linking linked near, linkedBy_linking linked' far,
      paired.evict_comm dual linked, join_comm dual.slot_ne]

/-- The calls to unlink two objects, on the one and on the other, leave the same links. -/
theorem Paired.linkedBy_unlinking_comm (linked : v ∈ h.values x r) :
    h.linkedBy ⟨x, if s.holding.isList then .removeFrom else .set, r,
        if s.holding.isList then some v else none⟩ o =
      h.linkedBy ⟨v, if t.holding.isList then .removeFrom else .set, o,
        if t.holding.isList then some x else none⟩ r := by
  rw [linkedBy_unlinking linked near, linkedBy_unlinking (paired.mem_symm dual linked) far,
    part_comm dual.slot_ne]

end Heap

/-! ## Worlds -/

/-- The call that makes an object hold another one at an end of an association. -/
def linkingAt (e : LinkedProperty) (x v : Nat) : Call :=
  ⟨x, if e.isList then .addTo else .set, e.name, some v⟩

/-- The call that makes an object give up another one at an end of an association. -/
def unlinkingAt (e : LinkedProperty) (x v : Nat) : Call :=
  ⟨x, if e.isList then .removeFrom else .set, e.name, if e.isList then some v else none⟩

/-- The call to link at an end is of the kind of the end. -/
theorem fits_linkingAt (e : LinkedProperty) (x v : Nat) : (linkingAt e x v).kind.fits e.isList = true := by
  cases isList : e.isList <;> simp [linkingAt, isList, AccessorKind.fits]

/-- The call to unlink at an end is of the kind of the end. -/
theorem fits_unlinkingAt (e : LinkedProperty) (x v : Nat) :
    (unlinkingAt e x v).kind.fits e.isList = true := by
  cases isList : e.isList <;> simp [unlinkingAt, isList, AccessorKind.fits]

namespace World

/-- The call to unlink passes an object that the member may be passed. -/
theorem accepts_unlinkingAt {w : World} {d : AssociationMember} {e : LinkedProperty} {x v : Nat}
    (accepts : w.Accepts d v) : ∀ u ∈ (unlinkingAt e x v).argument, w.Accepts d u := by
  intro u given
  cases isList : e.isList with
  | true =>
    obtain rfl : v = u := by simpa [unlinkingAt, isList] using given
    exact accepts
  | false => simp [unlinkingAt, isList] at given

/-- Linking two objects leaves the same contents from either side, and so does unlinking them. -/
theorem same_from_either_side {m : Linked} (rooted : m.IsRooted) (valid : m.IsValid) {w : World}
    (reachable : Reachable m w) (clear : w.IsClear m) {a : LinkedType} (among : a ∈ m.associations)
    {first second : LinkedProperty} (ends : a.ends = [first, second]) {x v : Nat}
    {left right : LinkedType} (ownedX : w.owners[x]? = some left) (ownedV : w.owners[v]? = some right)
    (atFirst : isEndAt first left.key = true) (atSecond : isEndAt second right.key = true) :
    (∃ near far, w.heap.perform (linkingAt second x v) = .done near ∧
      w.heap.perform (linkingAt first v x) = .done far ∧ near.contents = far.contents) ∧
    (v ∈ w.heap.values x second.name →
      ∃ near far, w.heap.perform (unlinkingAt second x v) = .done near ∧
        w.heap.perform (unlinkingAt first v x) = .done far ∧ near.contents = far.contents) := by
  have sound := reachable.isSound rooted valid clear
  have isClass := sound.classes left (List.mem_of_getElem? ownedX)
  have isClass' := sound.classes right (List.mem_of_getElem? ownedV)
  obtain ⟨member, bidirectional, leads⟩ :=
    member_of_ends rooted among (.inr ends) isClass atFirst isClass' atSecond
  obtain ⟨member', bidirectional', leads'⟩ :=
    member_of_ends rooted among (.inl ends) isClass' atSecond isClass atFirst
  have accepts : w.Accepts ⟨left, second, first⟩ v := ⟨right, ownedV, fun _ => leads⟩
  have accepts' : w.Accepts ⟨right, first, second⟩ x := ⟨left, ownedX, fun _ => leads'⟩
  have dual := sound.dual rooted ownedX member valid bidirectional accepts
  obtain ⟨s, near, same⟩ := sound.slot ownedX member
  obtain ⟨t, far, same'⟩ := sound.slot ownedV member'
  have kind : s.holding.isList = second.isList := isList_of_emptied same
  have kind' : t.holding.isList = first.isList := isList_of_emptied same'
  constructor
  · obtain ⟨es, done⟩ := sound.heap_call rooted valid (c := linkingAt second x v) ownedX member rfl
      bidirectional (by simpa [linkingAt] using accepts) (fits_linkingAt second x v)
    obtain ⟨es', done'⟩ := sound.heap_call rooted valid (c := linkingAt first v x) ownedV member' rfl
      bidirectional' (by simpa [linkingAt] using accepts') (fits_linkingAt first v x)
    refine ⟨_, _, done, done', ?_⟩
    have comm := sound.paired.linkedBy_linking_comm dual near far
    rw [kind, kind'] at comm
    rw [Heap.contents_recordAll, Heap.contents_recordAll]
    exact congrArg Heap.contents comm
  · intro linked
    obtain ⟨es, done⟩ := sound.heap_call rooted valid (c := unlinkingAt second x v) ownedX member rfl
      bidirectional (accepts_unlinkingAt accepts) (fits_unlinkingAt second x v)
    obtain ⟨es', done'⟩ := sound.heap_call rooted valid (c := unlinkingAt first v x) ownedV member' rfl
      bidirectional' (accepts_unlinkingAt accepts') (fits_unlinkingAt first v x)
    refine ⟨_, _, done, done', ?_⟩
    have comm := sound.paired.linkedBy_unlinking_comm dual near far linked
    rw [kind, kind'] at comm
    rw [Heap.contents_recordAll, Heap.contents_recordAll]
    exact congrArg Heap.contents comm

/-- The association of teams and players. -/
def clubMembership : LinkedType := club.link.associations.get ⟨0, by decide +kernel⟩

/-- The player comes to the second team, or leaves the first one, from either side. -/
theorem same_from_either_side_in_season :
    (2 ∉ season.heap.values 1 "players" ∧ ∃ near far,
      season.heap.perform ⟨1, .addTo, "players", some 2⟩ = .done near ∧
      season.heap.perform ⟨2, .set, "team", some 1⟩ = .done far ∧ near.contents = far.contents) ∧
    (2 ∈ season.heap.values 0 "players" ∧ ∃ near far,
      season.heap.perform ⟨0, .removeFrom, "players", some 2⟩ = .done near ∧
      season.heap.perform ⟨2, .set, "team", none⟩ = .done far ∧ near.contents = far.contents) := by
  have among : clubMembership ∈ club.link.associations := List.get_mem ..
  have ends : clubMembership.ends = [teamOfPlayer.far, teamOfPlayer.opposite] := rfl
  have player : season.owners[2]? = some clubPlayer := rfl
  have firstTeam : season.owners[0]? = some clubTeam := rfl
  have secondTeam : season.owners[1]? = some clubTeam := rfl
  have clear : season.IsClear club.link := isClear_of_no_strays rfl season
  have second := same_from_either_side club_isRooted club_isValid season_reachable clear among ends secondTeam player
    (by decide +kernel) (by decide +kernel)
  have first := same_from_either_side club_isRooted club_isValid season_reachable clear among ends firstTeam player
    (by decide +kernel) (by decide +kernel)
  have linked : 2 ∈ season.heap.values 0 "players" := by decide +kernel
  exact ⟨⟨by decide +kernel, second.1⟩, linked, first.2 linked⟩

/-- The tenant and the house cannot be linked from either side, and what the failed calls have written is not
the same. -/
theorem lodgings_not_same_from_either_side :
    lodgings.IsLinked ∧ lodgings.view.IsValid ∧ Reachable lodgings.view viewing ∧
      (∃ rents ∈ lodgings.view.associations, rents.ends = [homeOfTenant.opposite, homeOfTenant.far]) ∧
      viewing.owners[0]? = some tenant ∧ viewing.owners[1]? = some houseOutside ∧
      isEndAt homeOfTenant.opposite tenant.key = true ∧ isEndAt homeOfTenant.far houseOutside.key = true ∧
      (¬ ∃ near, viewing.heap.perform (linkingAt homeOfTenant.far 0 1) = .done near) ∧
      (¬ ∃ far, viewing.heap.perform (linkingAt homeOfTenant.opposite 1 0) = .done far) ∧
      (viewing.call (linkingAt homeOfTenant.far 0 1)).heap.contents ≠
        (viewing.call (linkingAt homeOfTenant.opposite 1 0)).heap.contents := by
  have near : viewing.heap.perform (linkingAt homeOfTenant.far 0 1) =
      .failed (viewing.call movingIn).heap (.multiValued "House" "tenant") := by
    decide +kernel
  have far : viewing.heap.perform (linkingAt homeOfTenant.opposite 1 0) =
      .failed viewing.heap (.multiValued "House" "tenant") := by
    decide +kernel
  refine ⟨lodgings_isLinked, lodgings_isValid, viewing_reachable,
    ⟨lodgings.view.associations.get ⟨0, by decide +kernel⟩, List.get_mem .., rfl⟩, rfl, rfl, by decide +kernel,
    by decide +kernel, ?_, ?_, by decide +kernel⟩
  · rintro ⟨h', done⟩
    rw [near] at done
    cases done
  · rintro ⟨h', done⟩
    rw [far] at done
    cases done

end World

end ClassDiagram.Objects
