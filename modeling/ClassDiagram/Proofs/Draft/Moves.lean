import ClassDiagram.Proofs.Draft.Edits

/-!
# Elements that come to a draft and go

Taking out an element takes all that it holds out of the tree (`occurrencesIn_cut_add_le`), so that it may be kept
aside or put in elsewhere.  The elements of an addition have origins that no other element has.
-/

set_option autoImplicit false

namespace ClassDiagram.Draft

variable {d d' : Draft} {x o : Origin} {e t : Element Handle Pointer}

/-! ## Taking out -/

/-- Whether an element is another one than that with an origin. -/
def stays (o : Origin) (e : Element Handle Pointer) : Bool := e.place.origin != o

/-- The change that takes the element with an origin out of all lists. -/
def cut (o : Origin) : Change Handle Pointer where
  package p := { p with
    packages := p.packages.filter fun q => stays o (.package q)
    types := p.types.filter fun t => stays o (.classifier t) }
  classifier t := { t with
    body := ((t.body.changeProperties (·.filter fun p => stays o (.property p))).changeOperations
      (·.filter fun p => stays o (.operation p))).changeEnds (·.filter fun p => stays o (.property p)) }
  operation p := { p with parameters := p.parameters.filter fun r => stays o (.parameter r) }

/-- Cutting an element out leaves the parts that stay. -/
theorem parts_cut (o : Origin) (c : Element Handle Pointer) :
    ((cut o).own c).parts = c.parts.filter (stays o) := by
  cases c with
  | package p =>
    rw [Change.own, Element.parts_package, Element.parts_package, List.filter_append, List.filter_map,
      List.filter_map]
    rfl
  | classifier t =>
    obtain ⟨place, name, body⟩ := t
    rw [Change.own, Element.parts_classifier, Element.parts_classifier, List.filter_append, List.filter_append,
      List.filter_map, List.filter_map, List.filter_map]
    cases body <;> rfl
  | operation p =>
    rw [Change.own, Element.parts_operation, Element.parts_operation, List.filter_map]
    rfl
  | property p => rfl
  | parameter r => rfl

/-- Cutting an element out brings nothing new in. -/
theorem isTame_cut (o : Origin) : IsTame (cut o) o [] where
  place c := by cases c <;> rfl
  complete c complete := by
    cases c with
    | classifier t =>
      obtain ⟨place, name, body⟩ := t
      cases body <;> exact complete
    | package p => exact complete
    | property p => exact complete
    | operation p => exact complete
    | parameter r => exact complete
  parts c := by
    rw [parts_cut, ite_self]
    exact List.filter_sublist.subperm

/-- An element without the one with an origin, and no element if it is that one. -/
def remains (o : Origin) (e : Element Handle Pointer) : List (Element Handle Pointer) :=
  [(cut o).ofElement e].filter (stays o)

/-- Elements that are cut and filtered are what remains of them. -/
theorem filter_map_cut (o : Origin) (es : List (Element Handle Pointer)) :
    (es.map (cut o).ofElement).filter (stays o) = es.flatMap (remains o) := by
  induction es with
  | nil => rfl
  | cons e es ih =>
    rw [List.map_cons, List.flatMap_cons, remains, ← ih, ← List.filter_append]
    rfl

/-- An origin does not occur more often in what remains of an element. -/
theorem occurrencesIn_remains_le (x o : Origin) (e : Element Handle Pointer) :
    occurrencesIn x (remains o e) ≤ occurrences x e := by
  have fewer := occurrencesIn_le (x := x) (List.filter_sublist (p := stays o)
    (l := [(cut o).ofElement e])).subperm
  have less := occurrences_ofElement_le (isTame_cut o) x e
  simp only [occurrencesIn_cons, occurrencesIn_nil, Nat.zero_mul, Nat.add_zero] at fewer less
  exact Nat.le_trans fewer less

/-- An origin does not occur more often in what remains of some elements. -/
theorem occurrencesIn_flatMap_le (x o : Origin) (es : List (Element Handle Pointer)) :
    occurrencesIn x (es.flatMap (remains o)) ≤ occurrencesIn x es := by
  induction es with
  | nil => exact Nat.le_refl _
  | cons e es ih =>
    rw [List.flatMap_cons, occurrencesIn_append, occurrencesIn_cons]
    exact Nat.add_le_add (occurrencesIn_remains_le x o e) ih

/-- What holds for one of some elements, that taking out makes room, holds for all of them together. -/
theorem occurrencesIn_flatMap_add_le {es : List (Element Handle Pointer)} (among : e ∈ es)
    (room : occurrencesIn x (remains o e) + occurrences x t ≤ occurrences x e) :
    occurrencesIn x (es.flatMap (remains o)) + occurrences x t ≤ occurrencesIn x es := by
  obtain ⟨front, back, rfl⟩ := List.append_of_mem among
  have before := occurrencesIn_flatMap_le x o front
  have after := occurrencesIn_flatMap_le x o back
  rw [List.flatMap_append, List.flatMap_cons, occurrencesIn_append, occurrencesIn_append, occurrencesIn_append,
    occurrencesIn_cons]
  omega

/-- Taking out an element makes room for it. -/
theorem occurrencesIn_cut_add_le (there : t ∈ e.all) :
    occurrencesIn x (remains t.place.origin e) + occurrences x t ≤ occurrences x e := by
  induction e using Element.induction with
  | step e ih =>
    have place := (isTame_cut t.place.origin).place_ofElement e
    by_cases here : e.place.origin = t.place.origin
    · have gone : remains t.place.origin e = [] := by simp [remains, stays, place, here]
      rw [gone, occurrencesIn_nil, Nat.zero_add]
      exact occurrences_le_of_mem_all there
    · rcases Element.mem_all.1 there with rfl | ⟨c, part, inside⟩
      · exact absurd rfl here
      · have kept : remains t.place.origin e = [(cut t.place.origin).ofElement e] := by
          simp [remains, stays, place, here]
        have parts : ((cut t.place.origin).ofElement e).parts = e.parts.flatMap (remains t.place.origin) := by
          rw [Change.ofElement_eq, parts_cut, Change.parts_ofParts, filter_map_cut]
        have room := occurrencesIn_flatMap_add_le part (ih c part inside)
        rw [kept, occurrencesIn_cons, occurrencesIn_nil, occurrences_eq, place, parts, occurrences_eq x e]
        omega

/-- The roots of a draft without an element are what remains of its roots. -/
theorem roots_without (d : Draft) (o : Origin) : (d.without o).roots = d.roots.flatMap (remains o) := by
  have packages := List.filter_map (f := Element.package) (p := stays o)
    (l := ((cut o).ofModel d.model).packages)
  rw [← filter_map_cut, roots, roots, List.map_append, List.filter_append]
  congr 1
  refine packages.symm.trans ?_
  rw [Change.ofModel, Change.ofPackages_eq, List.map_map, List.map_map]
  rfl

/-- An element that is taken out may be kept aside. -/
theorem IsSound.remove (sound : d.IsSound) (found : d.element? o = some e) : (d.remove e).IsSound := by
  obtain ⟨once, whole, named⟩ := isSound_iff.1 sound
  have there : e ∈ d.elements := List.mem_of_find?_eq_some found
  rw [elements_eq_roots] at there
  obtain ⟨root, top, inside⟩ := List.mem_flatMap.1 there
  refine isSound_iff.2 ⟨fun x => ?_, fun y among => ?_, named⟩
  · have room := occurrencesIn_flatMap_add_le top (occurrencesIn_cut_add_le (x := x) inside)
    have total := once x
    rw [Draft.remove, roots_keepAside, roots_without, occurrencesIn_append, occurrencesIn_cons,
      occurrencesIn_nil]
    omega
  · rw [Draft.remove, roots_keepAside, roots_without, ← filter_map_cut] at among
    rcases List.mem_append.1 among with old | out
    · obtain ⟨y, top, rfl⟩ := List.mem_map.1 (List.mem_filter.1 old).1
      exact (isTame_cut e.place.origin).isWhole (by simp) (whole y top)
    · obtain rfl := List.mem_singleton.1 out
      exact fun z held => whole root top z (Element.mem_all_trans held inside)

/-- An element that is in the draft may be put in elsewhere. -/
theorem IsSound.move (sound : d.IsSound) (found : d.element? o = some e) {holder : Holder} {branch : Branch}
    {position : Option Int} (moved : (d.without o).insert holder branch e position = .ok d') : d'.IsSound := by
  obtain rfl : e.place.origin = o := by
    rw [element?, elementAmong] at found
    simpa using List.find?_some found
  exact (sound.remove found).insert moved

/-! ## Additions -/

/-- The step to an element of an addition. -/
def firstStep {ι ρ : Type} : Element ι ρ → Step
  | .package _ => .package 0
  | .classifier _ => .type 0
  | .property _ => .property 0
  | .operation _ => .operation 0
  | .parameter _ => .parameter 0

/-- An item that is settled by itself begins at its first step. -/
theorem settleItem_eq (item : Element Unit String) :
    settleItem item = Linking.settleElement [] [] (firstStep item) item := by
  cases item <;> rfl

/-- The first step of an item suits it. -/
theorem suits_firstStep {ι ρ : Type} (item : Element ι ρ) : (firstStep item).Suits item := by
  cases item <;> trivial

/-- Elements with different positions have different origins. -/
theorem nodup_origins {ρ : Type} {es : List (Element Place ρ)} (addition : Nat)
    (apart : (es.map (·.place.key)).Nodup) (within : ∀ e ∈ es, ∃ path, e.place.key = .inside path) :
    (es.map fun e => (handleIn addition e.place).origin).Nodup := by
  refine List.Nodup.map_on (fun e there e' there' same => ?_) (List.Nodup.of_map _ apart)
  obtain ⟨path, here⟩ := within e there
  obtain ⟨path', here'⟩ := within e' there'
  have keys : e.place.key = e'.place.key := by
    have paths : e.place.key.path = e'.place.key.path := congrArg Origin.position same
    rw [here, here'] at paths ⊢
    exact congrArg Key.inside paths
  exact List.inj_on_of_nodup_map apart there there' keys

section

variable (d) (item : Element Unit String)

/-- The elements of a new one are those of the item, at new places and with names to be looked up. -/
theorem newElement_all : (d.newElement item).all =
    (settleItem item).all.map (·.map (handleIn d.additions) fun _ _ _ name => .named (.text name)) := by
  rw [newElement, Element.all_map]

/-- All elements of a new one are new and complete. -/
theorem newElement_isNew :
    ∀ e ∈ (d.newElement item).all, e.place.origin.addition = d.additions ∧ IsComplete e := by
  intro e there
  rw [newElement_all] at there
  obtain ⟨s, _, rfl⟩ := List.mem_map.1 there
  refine ⟨?_, fun r among => ?_⟩
  · rw [Element.place_map]
    rfl
  · rw [Element.references_map] at among
    obtain ⟨_, _, rfl⟩ := List.mem_map.1 among
    rfl

/-- No origin occurs twice in a new element. -/
theorem occurrences_newElement_le (x : Origin) : occurrences x (d.newElement item) ≤ 1 := by
  have keys := Linking.nodup_keys_settleElement [] [] (suits_firstStep item)
  rw [← settleItem_eq] at keys
  have apart := nodup_origins d.additions keys.1 fun s there => by
    obtain ⟨rest, under⟩ := keys.2 s there
    exact ⟨_, under⟩
  have same : (d.newElement item).all.map (·.place.origin) =
      (settleItem item).all.map fun e => (handleIn d.additions e.place).origin := by
    rw [newElement_all, List.map_map]
    exact List.map_congr_left fun s _ => congrArg Handle.origin (Element.place_map _ _ s)
  rw [occurrences, same]
  exact List.nodup_iff_count_le_one.1 apart x

end

/-- A new element may be kept aside. -/
theorem IsSound.addAside (sound : d.IsSound) (item : Element Unit String) : (d.addAside item).IsSound := by
  obtain ⟨once, whole, named⟩ := isSound_iff.1 sound
  have roots : (d.addAside item).roots = d.roots ++ [d.newElement item] :=
    roots_keepAside ({ d with additions := d.additions + 1 } : Draft) _
  refine isSound_iff.2 ⟨fun x => ?_, ?_, named⟩
  · rw [roots, occurrencesIn_append, occurrencesIn_cons, occurrencesIn_nil]
    -- An origin is of one addition only.
    by_cases new : x.addition = d.additions
    · have none : occurrencesIn x d.roots = 0 := by
        rw [← count_origins, List.count_eq_zero]
        intro there
        obtain ⟨e, among, rfl⟩ := List.mem_map.1 there
        obtain ⟨root, top, held⟩ := List.mem_flatMap.1 among
        exact absurd new (Nat.ne_of_lt (whole root top e held).1)
      have one := occurrences_newElement_le d item x
      omega
    · have none : occurrences x (d.newElement item) = 0 := by
        rw [occurrences, List.count_eq_zero]
        intro there
        obtain ⟨e, among, rfl⟩ := List.mem_map.1 there
        exact new (newElement_isNew d item e among).1
      have one := once x
      omega
  · rw [roots, List.forall_mem_append, List.forall_mem_singleton]
    refine ⟨fun e top y held => ?_, fun y held => ?_⟩
    · have old := whole e top y held
      exact ⟨Nat.lt_succ_of_lt old.1, old.2⟩
    · have new := newElement_isNew d item y held
      exact ⟨new.1 ▸ Nat.lt_succ_self _, new.2⟩

/-- A new element may be put in the draft. -/
theorem IsSound.add (sound : d.IsSound) {item : Element Unit String} {holder : Holder} {branch : Branch}
    {position : Option Int} (added : d.add holder branch item position = .ok d') : d'.IsSound :=
  (sound.addAside item).insert added

end ClassDiagram.Draft
