import ClassDiagram.Draft.View
import ClassDiagram.Proofs.Draft.History
import ClassDiagram.Proofs.Model.Linked

/-!
# The linked form of a draft

The elements of a sound draft have different keys, those outside the tree too (`IsSound.key_inj`).  A reference of a
current draft leads to a type of the tree unless another target was given to it (`IsCurrent.exists_type_of_targetOf`).
So the linked form of such a draft is coherent as that of a declared model is (`IsCurrent.view_isCoherent`), or nearly
so where targets were given (`IsCurrent.view_isRooted`).
-/

set_option autoImplicit false

namespace ClassDiagram

/-! ## Types among elements -/

/-- An element is a type exactly if it is that of the type. -/
theorem Draft.asType_eq_some {ι ρ : Type} {e : Element ι ρ} {t : Classifier ι ρ} :
    asType e = some t ↔ e = .classifier t := by
  cases e <;> simp [asType]

/-- The types of packages are those of their elements that are types. -/
theorem perm_typesIn {ι ρ : Type} :
    (ps : List (Package ι ρ)) → ((allElements ps).filterMap Draft.asType).Perm (typesIn ps)
  | [] => .nil
  | ⟨place, name, packages, types⟩ :: rest => by
    have single (t : Classifier ι ρ) : t.elements.filterMap Draft.asType = [t] := by
      have none : ∀ e ∈ t.properties.map Element.property ++ t.operations.flatMap Operation.elements ++
          t.ends.map Element.property, Draft.asType e = Option.none := by
        intro e there
        simp only [List.mem_append, List.mem_map, List.mem_flatMap, Operation.elements, List.mem_cons] at there
        rcases there with (⟨_, _, rfl⟩ | ⟨_, _, rfl | ⟨_, _, rfl⟩⟩) | ⟨_, _, rfl⟩ <;> rfl
      rw [Classifier.elements, List.filterMap_cons_some (f := Draft.asType) rfl, List.filterMap_eq_nil_iff.2 none]
    have own : (types.flatMap Classifier.elements).filterMap Draft.asType = types := by
      rw [List.filterMap_flatMap, List.flatMap_congr fun t _ => single t]
      exact List.flatMap_singleton' types
    rw [allElements, Package.elements, List.cons_append, List.filterMap_cons_none rfl, List.filterMap_append,
      List.filterMap_append, own, typesIn_cons, ← List.append_assoc]
    exact (List.perm_append_comm.trans ((perm_typesIn packages).append_left types)).append (perm_typesIn rest)

/-- The types among the elements of a model are its types, in some order. -/
theorem Model.perm_types {ι ρ : Type} (m : Model ι ρ) : (m.elements.filterMap Draft.asType).Perm m.types :=
  perm_typesIn m.packages

/-- A type is one of a model exactly if its element is. -/
theorem Model.mem_types_iff {ι ρ : Type} {m : Model ι ρ} {t : Classifier ι ρ} :
    t ∈ m.types ↔ Element.classifier t ∈ m.elements := by
  rw [← m.perm_types.mem_iff, List.mem_filterMap]
  simp only [Draft.asType_eq_some, exists_eq_right]

/-- The types of the packages around an element are types of the model. -/
theorem Model.At.mem_types {ι ρ : Type} {m : Model ι ρ} {path : Path} {e : Element ι ρ} {around : List (Element ι ρ)}
    (there : m.At path e around) {p : Package ι ρ} (within : p ∈ packagesAmong (e :: around)) {t : Classifier ι ρ}
    (part : t ∈ p.types) : t ∈ m.types := by
  obtain ⟨a, near, isPackage⟩ := List.mem_filterMap.1 within
  have known : a ∈ m.elements := List.forall_mem_cons.2 there.mem_elements a near
  cases a with
  | package q =>
    obtain rfl := Option.some.inj isPackage
    exact Model.mem_types_iff.2 (Model.mem_elements_of_mem_parts known (by simp [part]))
  | _ => cases isPackage

namespace Draft

variable {d : Draft} {path : Path} {e : Element Handle Pointer} {around : List (Element Handle Pointer)}

/-! ## Keys -/

/-- The key of an element with a position is that of the path there. -/
theorem key_of_lookup {o : Origin} (found : List.lookup o d.positions = some path) :
    d.keyIn d.positions o = .inside path := by
  rw [keyIn, found]

/-- No element has the key of the model. -/
theorem keyIn_ne_root (d : Draft) (origin : Origin) : d.keyIn d.positions origin ≠ .inside [] := by
  cases lookup : List.lookup origin d.positions with
  | none =>
    rw [keyIn, lookup]
    exact Key.noConfusion
  | some path =>
    rw [key_of_lookup lookup]
    obtain ⟨before, after, split, -⟩ := List.lookup_eq_some_iff.1 lookup
    obtain ⟨e, around, here, -⟩ := mem_positions.1 (by simp [split] : (origin, path) ∈ d.positions)
    exact fun same => here.path_ne_nil (Key.inside.inj same)

/-- The key of an element of the tree is its position. -/
theorem IsSound.key_eq (sound : d.IsSound) (there : d.model.At path e around) :
    d.keyIn d.positions e.place.origin = .inside path :=
  key_of_lookup (sound.lookup_positions there)

/-- What has no position in the tree is outside of it. -/
theorem mem_outside (there : e ∈ d.elements) (missing : List.lookup e.place.origin d.positions = none) :
    e ∈ d.outside := by
  rcases List.mem_append.1 there with inside | outside
  · obtain ⟨path, around, here⟩ := Model.mem_elements_iff.1 inside
    have among := mem_positions.2 ⟨e, around, here, rfl⟩
    have apart := List.lookup_eq_none_iff.1 missing _ among
    exact absurd apart (by simp)
  · exact outside

/-- No two elements of a sound draft have one key. -/
theorem IsSound.key_inj (sound : d.IsSound) {e' : Element Handle Pointer} (there : e ∈ d.elements)
    (there' : e' ∈ d.elements)
    (same : d.keyIn d.positions e.place.origin = d.keyIn d.positions e'.place.origin) : e = e' := by
  suffices origin : e.place.origin = e'.place.origin from List.inj_on_of_nodup_map sound.apart there there' origin
  have position {o : Origin} {path : Path} (found : List.lookup o d.positions = some path) :
      (o, path) ∈ d.positions := by
    obtain ⟨before, after, split, _⟩ := List.lookup_eq_some_iff.1 found
    simp [split]
  cases found : List.lookup e.place.origin d.positions with
  | some path =>
    cases found' : List.lookup e'.place.origin d.positions with
    | some path' =>
      rw [key_of_lookup found, key_of_lookup found'] at same
      obtain rfl := Key.inside.inj same
      obtain ⟨x, around, here, origin⟩ := mem_positions.1 (position found)
      obtain ⟨x', around', here', origin'⟩ := mem_positions.1 (position found')
      rw [← origin, ← origin', (here.unique here').1]
    | none =>
      rw [key_of_lookup found, keyIn, found'] at same
      exact Key.noConfusion same
  | none =>
    cases found' : List.lookup e'.place.origin d.positions with
    | some path' =>
      rw [key_of_lookup found', keyIn, found] at same
      exact Key.noConfusion same
    | none =>
      -- Both are outside, where the first element with an origin tells the key.
      rw [keyIn, keyIn, found, found'] at same
      have number := (Key.outside.inj same).1
      have here {x : Element Handle Pointer} (among : x ∈ d.outside) :
          ∃ y, d.outside[d.outside.findIdx (·.place.origin == x.place.origin)]? = some y ∧
            y.place.origin = x.place.origin := by
        have within := List.findIdx_lt_length_of_exists (p := (·.place.origin == x.place.origin))
          ⟨x, among, beq_self_eq_true _⟩
        exact ⟨_, List.getElem?_eq_getElem within, eq_of_beq (List.findIdx_getElem (w := within))⟩
      obtain ⟨y, first, origin⟩ := here (mem_outside there found)
      obtain ⟨y', first', origin'⟩ := here (mem_outside there' found')
      rw [number, first'] at first
      obtain rfl := Option.some.inj first
      exact origin.symm.trans origin'

/-! ## Types -/

/-- A type of a draft as it is in the linked form. -/
def seen (d : Draft) (t : Classifier Handle Pointer) : LinkedType :=
  t.map (d.placeOf d.positions) (d.linkOf d.positions)

/-- The types of the linked form of a draft are its types, seen from it. -/
theorem types_view (d : Draft) : d.view.model.types = d.model.types.map d.seen :=
  Model.types_map _ _ d.model

/-- All types that are known in the linked form are those of the model and those outside it. -/
theorem everyType_view (d : Draft) :
    d.view.everyType = (d.model.types ++ d.outside.filterMap asType).map d.seen := by
  rw [Linked.everyType, types_view, List.map_append]
  rfl

/-- A type of a draft is known in its linked form. -/
theorem mem_everyType_view {t : Classifier Handle Pointer} (there : .classifier t ∈ d.elements) :
    d.seen t ∈ d.view.everyType := by
  rw [everyType_view]
  refine List.mem_map_of_mem (List.mem_append.2 ?_)
  rcases List.mem_append.1 there with inside | outside
  · exact .inl (Model.mem_types_iff.2 inside)
  · exact .inr (List.mem_filterMap.2 ⟨_, outside, rfl⟩)

/-- A type of the linked form is an element of the draft as it is seen there. -/
theorem exists_of_mem_everyType_view {type : LinkedType} (there : type ∈ d.view.everyType) :
    ∃ t, Element.classifier t ∈ d.elements ∧ d.seen t = type := by
  rw [everyType_view] at there
  obtain ⟨t, among, rfl⟩ := List.mem_map.1 there
  refine ⟨t, ?_, rfl⟩
  rcases List.mem_append.1 among with inside | outside
  · exact mem_elements_of_tree (Model.mem_types_iff.1 inside)
  · obtain ⟨e, aside, isType⟩ := List.mem_filterMap.1 outside
    exact List.mem_append_right _ (asType_eq_some.1 isType ▸ aside)

/-- No two types of the linked form of a sound draft have one key. -/
theorem IsSound.nodup_typeKeys (sound : d.IsSound) : (d.view.everyType.map (·.key)).Nodup := by
  have keys : d.view.everyType.map (·.key) =
      (d.model.types ++ d.outside.filterMap asType).map fun t => d.keyIn d.positions t.place.origin := by
    rw [everyType_view, List.map_map]
    rfl
  have types : (d.elements.filterMap asType).Perm (d.model.types ++ d.outside.filterMap asType) := by
    rw [elements, List.filterMap_append]
    exact d.model.perm_types.append_right _
  rw [keys, ← (types.map _).nodup_iff, List.Nodup, List.pairwise_map, List.pairwise_filterMap]
  refine (List.pairwise_map.1 sound.apart).imp_of_mem fun there there' apart t isType t' isType' same => ?_
  obtain rfl := asType_eq_some.1 isType
  obtain rfl := asType_eq_some.1 isType'
  exact apart (congrArg (·.place.origin) (sound.key_inj there there' same))

/-! ## Targets -/

/-- Whether the targets that were given to references of the tree are types of the tree. -/
def IsClosed (d : Draft) : Prop :=
  ∀ e ∈ d.model.elements, ∀ r ∈ e.references, ∀ target, r.2.2.aim = .given target →
    ∃ t ∈ d.model.types, target = .element t.place.origin

/-- No target is given in a declared model. -/
theorem isClosed_ofDeclared (m : Declared) : (ofDeclared m).IsClosed := by
  unfold IsClosed ofDeclared
  rw [model_linkAll, Model.forall_references_map, Model.forall_references_map]
  intro e there r among target given
  exact absurd given (by simp [Pointer.linked, Pointer.reset, Pointer.named])

/-- A name of a current draft leads to a type of its tree. -/
theorem IsCurrent.exists_type_of_lookUp (current : d.IsCurrent) (there : e ∈ d.model.elements)
    {kinds : List Kind} {name : String} {entry : Entry}
    (found : d.lookUp (.element e.place.origin) kinds name = some entry) :
    ∃ t ∈ d.model.types, entry = .ofType t := by
  obtain ⟨path, around, here⟩ := Model.mem_elements_iff.1 there
  rw [current.lookUp_eq here] at found
  refine Directory.of_find? (P := fun entry => ∃ t ∈ d.model.types, entry = .ofType t) ?_ ?_ ?_ found
  · exact (NameTree.all_empty _).addPackages _ fun t known => ⟨t, known, rfl⟩
  · intro pair among
    obtain ⟨t, known, rfl⟩ := List.mem_map.1 among
    exact ⟨t, known, rfl⟩
  · intro scope among pair held
    obtain ⟨p, within, rfl⟩ := List.mem_map.1 among
    obtain ⟨t, part, rfl⟩ := List.mem_map.1 held
    exact ⟨t, here.mem_types within part, rfl⟩

/-- In a current draft without targets outside the model, references lead to types of the model. -/
theorem IsCurrent.exists_type_of_targetOf (current : d.IsCurrent) (closed : d.IsClosed)
    (there : e ∈ d.model.elements) {r : RefField × Nat × Pointer} (among : r ∈ e.references) {target : Holder}
    (leads : d.targetOf e.place.origin r.1 r.2.2 = some target) :
    ∃ t ∈ d.model.types, target = .element t.place.origin := by
  have looked {origin : Origin} (found : d.lookUpGiven e.place.origin r.1 r.2.2.name = some origin) :
      ∃ t ∈ d.model.types, Holder.element origin = .element t.place.origin := by
    cases name : r.2.2.name with
    | text text =>
      rw [name, lookUpGiven] at found
      obtain ⟨entry, entered, rfl⟩ := Option.map_eq_some_iff.1 found
      obtain ⟨t, known, rfl⟩ := current.exists_type_of_lookUp there entered
      exact ⟨t, known, rfl⟩
    | _ =>
      rw [name, lookUpGiven] at found
      · cases found
      · simp
  unfold targetOf at leads
  split at leads
  · next given aim =>
    obtain rfl := Option.some.inj leads
    exact closed e there r among given aim
  · next found aim =>
    obtain ⟨origin, rfl, rfl⟩ := Option.map_eq_some_iff.1 leads
    exact looked (current.settled e there r among _ aim).symm
  · split at leads
    · obtain ⟨origin, found, rfl⟩ := Option.map_eq_some_iff.1 leads
      exact looked found
    · cases leads
  · cases leads

/-- A type is seen as what leads to it tells. -/
theorem seen_target (d : Draft) (t : Classifier Handle Pointer) :
    (d.seen t).target = ⟨d.keyIn d.positions t.place.origin, t.kind, t.name, d.home t.place.origin⟩ := by
  obtain ⟨place, name, body⟩ := t
  cases body <;> rfl

/-- What a reference leads to, unless it is the model, is an element of the draft and told by it. -/
theorem exists_element_of_targetAt {origin : Origin} {target : Target}
    (leads : d.targetAt d.positions (.element origin) = some target) :
    ∃ e ∈ d.elements, target.kind = kindAsTarget e ∧ target.name = e.name ∧
      ∀ t, e = .classifier t → (d.seen t).target = target := by
  obtain ⟨e, found, rfl⟩ := Option.map_eq_some_iff.1 leads
  refine ⟨e, List.mem_of_find?_eq_some found, rfl, rfl, ?_⟩
  rintro t rfl
  have same : (Element.classifier t).place.origin = origin := by simpa using List.find?_some found
  subst same
  exact seen_target d t

/-- A type of the tree is the target of what leads to it. -/
theorem IsSound.targetAt_eq (sound : d.IsSound) {t : Classifier Handle Pointer} (there : t ∈ d.model.types) :
    d.targetAt d.positions (.element t.place.origin) =
      some (d.seen t).target := by
  have found : d.element? t.place.origin = some (.classifier t) :=
    sound.elementAmong_elements (Model.mem_types_iff.1 there)
  rw [targetAt, found, seen_target]
  rfl

/-! ## Associations -/

/-- An association of the linked form is a type of the draft, seen from it. -/
theorem mem_associations_view {a : LinkedType} (there : a ∈ d.view.associations) :
    ∃ t ∈ d.model.types, a = d.seen t := by
  obtain ⟨among, _⟩ := List.mem_filter.1 there
  rw [types_view] at among
  obtain ⟨t, known, rfl⟩ := List.mem_map.1 among
  exact ⟨t, known, rfl⟩

/-- The ends of a type move with its places. -/
theorem ends_map {ι ρ κ σ : Type} (f : ι → κ) (g : ι → RefField → Nat → ρ → σ) (t : Classifier ι ρ) :
    (t.map f g).ends = t.ends.map (·.map f g) := by
  obtain ⟨place, name, body⟩ := t
  cases body <;> rfl

/-- An end is in its association. -/
theorem at_end {t : Classifier Handle Pointer} (there : d.model.At path (.classifier t) around) {i : Nat}
    {e : Property Handle Pointer} (found : t.ends[i]? = some e) :
    d.model.At (path ++ [.associationEnd i]) (.property e) (.classifier t :: around) := by
  refine .part there ?_
  rw [Element.steps]
  exact List.mem_append_right _ (mem_numberedParts.2 ⟨i, e, found, rfl⟩)

/-- The type of an end is what a reference of an element of the tree leads to. -/
theorem exists_reference_of_endType {a : LinkedType} (there : a ∈ d.view.associations) {e : LinkedProperty}
    (among : e ∈ a.ends) {target : Target} (found : e.endType = some target) :
    ∃ p r holder, Element.property p ∈ d.model.elements ∧ (RefField.type, 0, r) ∈ (Element.property p).references ∧
      d.targetOf p.place.origin .type r = some holder ∧ d.targetAt d.positions holder = some target := by
  obtain ⟨t, known, rfl⟩ := mem_associations_view there
  rw [seen, ends_map] at among
  obtain ⟨p, part, rfl⟩ := List.mem_map.1 among
  have inside : Element.property p ∈ d.model.elements :=
    Model.mem_elements_of_mem_parts (Model.mem_types_iff.1 known) (by simp [part])
  obtain ⟨link, linked, leads⟩ := Option.bind_eq_some_iff.1 found
  obtain ⟨r, given, rfl⟩ := Option.map_eq_some_iff.1 linked
  obtain ⟨holder, aimed, at'⟩ := Option.bind_eq_some_iff.1 leads
  exact ⟨p, r, holder, inside, by simp [Element.references, typeReference, given], aimed, at'⟩

section

variable (current : d.IsCurrent)
include current

/-- The types at the ends of associations are types of the tree. -/
theorem IsCurrent.exists_type_of_endType (closed : d.IsClosed) {a : LinkedType} (there : a ∈ d.view.associations)
    {e : LinkedProperty} (among : e ∈ a.ends) {target : Target} (found : e.endType = some target) :
    ∃ type ∈ d.view.model.types, type.target = target := by
  obtain ⟨p, r, holder, inside, reference, aimed, leads⟩ := exists_reference_of_endType there among found
  obtain ⟨type, within, rfl⟩ := current.exists_type_of_targetOf closed inside reference aimed
  rw [current.sound.targetAt_eq within] at leads
  refine ⟨_, ?_, Option.some.inj leads⟩
  rw [types_view]
  exact List.mem_map_of_mem within

/-- The linked form of a current draft is rooted, whatever targets were given. -/
theorem IsCurrent.view_isRooted : d.view.IsRooted where
  keys := current.sound.nodup_typeKeys
  classes := by
    intro a there e among target found isClass
    obtain ⟨p, r, holder, inside, reference, aimed, leads⟩ := exists_reference_of_endType there among found
    cases holder with
    | model =>
      obtain rfl := Option.some.inj leads
      cases isClass
    | element origin =>
      obtain ⟨x, known, kind, -, same⟩ := exists_element_of_targetAt leads
      rw [kind] at isClass
      cases x with
      | classifier t => exact ⟨d.seen t, mem_everyType_view known, same t rfl⟩
      | _ => cases isClass
  told := by
    intro a there e among target found type known same
    obtain ⟨t, here, rfl⟩ := exists_of_mem_everyType_view known
    obtain ⟨p, r, holder, inside, reference, aimed, leads⟩ := exists_reference_of_endType there among found
    cases holder with
    | model =>
      obtain rfl := Option.some.inj leads
      exact absurd same.symm (d.keyIn_ne_root t.place.origin)
    | element origin =>
      -- What is led to has the key of the type, so it is the type.
      obtain ⟨x, element, rfl⟩ := Option.map_eq_some_iff.1 leads
      have origins : x.place.origin = origin := by simpa using List.find?_some element
      subst origins
      obtain rfl := current.sound.key_inj (List.mem_of_find?_eq_some element) here same
      exact (seen_target d t).symm
  holders := by
    intro a there e among
    obtain ⟨t, known, rfl⟩ := mem_associations_view there
    rw [seen, ends_map] at among
    obtain ⟨p, part, rfl⟩ := List.mem_map.1 among
    obtain ⟨path, around, here⟩ := Model.mem_elements_iff.1 (Model.mem_types_iff.1 known)
    obtain ⟨i, found⟩ := List.mem_iff_getElem?.1 part
    have holder : p.place.holder = some (.element t.place.origin) :=
      current.placed.holders (at_end here found)
    change p.place.holder.map _ = _
    rw [holder]
    rfl
  endKeys := by
    intro a there
    obtain ⟨t, known, rfl⟩ := mem_associations_view there
    obtain ⟨path, around, here⟩ := Model.mem_elements_iff.1 (Model.mem_types_iff.1 known)
    have key {i : Nat} {p : Property Handle Pointer} (found : t.ends[i]? = some p) :
        d.keyIn d.positions p.place.origin = .inside (path ++ [.associationEnd i]) :=
      current.sound.key_eq (at_end here found)
    rw [seen, ends_map, List.map_map, List.Nodup, List.pairwise_map, List.pairwise_iff_getElem]
    intro i j iLess jLess less same
    change d.keyIn d.positions _ = d.keyIn d.positions _ at same
    rw [key (List.getElem?_eq_getElem iLess), key (List.getElem?_eq_getElem jLess)] at same
    simp at same
    omega

/-- The linked form of a current draft is coherent where no target outside its tree was given. -/
theorem IsCurrent.view_isCoherent (closed : d.IsClosed) : d.view.IsCoherent where
  keys := current.view_isRooted.keys
  targets := by
    intro a there e among target found
    obtain ⟨type, known, same⟩ := current.exists_type_of_endType closed there among found
    exact ⟨type, List.mem_append_left _ known, same⟩
  holders := current.view_isRooted.holders
  endKeys := current.view_isRooted.endKeys

end

/-- The linked form of every linked draft is rooted. -/
theorem IsLinked.view_isRooted {d : Draft} (linked : d.IsLinked) : d.view.IsRooted :=
  linked.isCurrent.view_isRooted

end Draft

end ClassDiagram
