import ClassDiagram.Proofs.Model.Associations

/-!
# What an association contributes

The members of a class are those that a plain scan of the associations finds: of an association with two ends the far
ones whose type is known, each with the other end (`Linked.IsCoherent.associationMembers_eq_scan`).  So no member is
lost or found twice, and what an association contributes to all classes together depends on its two ends alone
(`Linked.IsCoherent.conserves`).
-/

set_option autoImplicit false

namespace ClassDiagram

/-! ## The plain scan -/

/-- The members that an association with the given ends adds to a class: of two ends the far ones whose type is
known, each with the other end. -/
def membersAcross (owner : LinkedType) : List LinkedProperty → List AssociationMember
  | [first, second] =>
    (farEnds [first, second] owner.key).filterMap fun far =>
      if far.endType.isSome then
        some ⟨owner, far, if far.place.key = first.place.key then second else first⟩
      else none
  | _ => []

namespace Linked

/-- The members of a class as a scan of all associations finds them, one association after another. -/
def scannedMembers (m : Linked) (owner : LinkedType) : List AssociationMember :=
  m.associations.flatMap fun a => membersAcross owner a.ends

/-- The members that all classes together have because of an association, class after class. -/
def membersOf (m : Linked) (a : LinkedType) : List AssociationMember :=
  (m.classes.flatMap m.associationMembers).filter fun r => r.far.place.holder == some a.key

/-- Whether an association contributes two members between classes, one to each or both to the one that they are at,
a single member between a class and a type of another kind, and else none. -/
structure Conserves (m : Linked) (a : LinkedType) : Prop where
  between : ∀ {first second t t'}, a.ends = [first, second] →
    first.endType = some t → second.endType = some t' → t.kind = .classKind → t'.kind = .classKind → t ≠ t' →
      ∃ c ∈ m.classes, ∃ c' ∈ m.classes, c.target = t ∧ c'.target = t' ∧
        (m.membersOf a).Perm [⟨c, second, first⟩, ⟨c', first, second⟩]
  reflexive : ∀ {first second t}, a.ends = [first, second] →
    first.endType = some t → second.endType = some t → t.kind = .classKind →
      ∃ c ∈ m.classes, c.target = t ∧ m.membersOf a = [⟨c, first, second⟩, ⟨c, second, first⟩]
  oneSided : ∀ {near far t t'}, a.ends = [near, far] ∨ a.ends = [far, near] →
    near.endType = some t → far.endType = some t' → t.kind = .classKind → t'.kind ≠ .classKind →
      ∃ c ∈ m.classes, c.target = t ∧ m.membersOf a = [⟨c, far, near⟩]
  unresolved : (∃ e ∈ a.ends, e.endType = none) → m.membersOf a = []
  classless : (∀ e ∈ a.ends, ∀ t, e.endType = some t → t.kind ≠ .classKind) → m.membersOf a = []
  arity : a.ends.length ≠ 2 → m.membersOf a = []

end Linked

/-! ## Lists with one or two items that count -/

section

variable {α β : Type} {f : α → List β} {l : List α} {x y : α}

/-- Where one item alone gives something, this is all that is given. -/
theorem flatMap_eq_of_unique (apart : l.Nodup) (among : x ∈ l) (others : ∀ z ∈ l, z ≠ x → f z = []) :
    l.flatMap f = f x := by
  obtain ⟨before, after, rfl⟩ := List.append_of_mem among
  obtain ⟨-, later, disjoint⟩ := List.nodup_append.1 apart
  have early : before.flatMap f = [] := List.flatMap_eq_nil_iff.2 fun z there =>
    others z (List.mem_append_left _ there) (disjoint z there x List.mem_cons_self)
  have late : after.flatMap f = [] := List.flatMap_eq_nil_iff.2 fun z there =>
    others z (by simp [there]) fun same => (List.nodup_cons.1 later).1 (same ▸ there)
  rw [List.flatMap_append, List.flatMap_cons, early, late, List.nil_append, List.append_nil]

/-- What filtered items give is what the items give that are kept. -/
theorem flatMap_filter {p : α → Bool} :
    (l.filter p).flatMap f = l.flatMap fun x => if p x then f x else [] := by
  induction l with
  | nil => rfl
  | cons x rest ih =>
    rw [List.filter_cons, List.flatMap_cons, ← ih]
    split
    · rw [List.flatMap_cons]
    · rfl

/-- Where two items alone give something, this is all that is given. -/
theorem flatMap_perm_of_two (apart : l.Nodup) (among : x ∈ l) (among' : y ∈ l) (differ : x ≠ y)
    (others : ∀ z ∈ l, z ≠ x → z ≠ y → f z = []) : (l.flatMap f).Perm (f x ++ f y) := by
  obtain ⟨before, after, rfl⟩ := List.append_of_mem among
  have moved : (before ++ x :: after).Perm (x :: (before ++ after)) := List.perm_middle
  have held : y ∈ before ++ after := by
    rcases List.mem_cons.1 (moved.mem_iff.1 among') with same | there
    · exact absurd same.symm differ
    · exact there
  obtain ⟨missing, rest⟩ := List.nodup_cons.1 (moved.nodup_iff.1 apart)
  have single : (before ++ after).flatMap f = f y :=
    flatMap_eq_of_unique rest held fun z there other =>
      others z (moved.mem_iff.2 (List.mem_cons_of_mem _ there)) (fun same => missing (same ▸ there)) other
  have all := moved.flatMap_right f
  rwa [List.flatMap_cons, single] at all

end

/-! ## The index -/

/-- Keys of which later ones are dropped are distinct. -/
theorem nodup_distinctKeys (keys : List Key) : (distinctKeys keys).Nodup := by
  have grows (seen : List Key) (apart : seen.Nodup) :
      (keys.foldl (fun seen k => if seen.contains k then seen else seen ++ [k]) seen).Nodup := by
    induction keys generalizing seen with
    | nil => exact apart
    | cons k rest ih =>
      rw [List.foldl_cons]
      split
      · exact ih seen apart
      · next new =>
        refine ih _ (List.nodup_append.2 ⟨apart, List.nodup_singleton k, fun k' there k'' last same => ?_⟩)
        obtain rfl := List.mem_singleton.1 last
        exact new (List.contains_iff_mem.2 (same ▸ there))
  exact grows [] List.nodup_nil

variable {m : Linked} {a owner : LinkedType} {first second : LinkedProperty}

/-- The index lists the associations in which a class takes part once each, in their order. -/
theorem associationsAt_eq_filter (m : Linked) (key : Key) :
    m.associationsAt key = m.associations.filter fun a => (Linked.participatingClasses a).contains key := by
  have once (a : LinkedType) : (((Linked.participatingClasses a).map fun k => (k, a)).filter (·.1 == key)).map
      Prod.snd = if (Linked.participatingClasses a).contains key then [a] else [] := by
    have apart : (Linked.participatingClasses a).Nodup := nodup_distinctKeys _
    have same : (Linked.participatingClasses a).filter (· == key) =
        if key ∈ Linked.participatingClasses a then [key] else [] := by
      rw [List.filter_beq, List.Nodup.count apart]
      split <;> rfl
    rw [List.filter_map, List.map_map]
    change ((Linked.participatingClasses a).filter (· == key)).map _ = _
    rw [same]
    simp only [List.contains_iff_mem]
    split <;> rfl
  rw [Linked.associationsAt, Linked.participations, List.filter_flatMap, List.map_flatMap]
  simp only [once]
  rw [← flatMap_filter]
  exact List.flatMap_singleton' _

/-- An association with other than two ends has none on a far side. -/
theorem farEnds_of_length {ends : List LinkedProperty} (other : ends.length ≠ 2) (key : Key) :
    farEnds ends key = [] := by
  unfold farEnds
  split
  · exact absurd rfl other
  · rfl

/-- An association with other than two ends gives a class no members. -/
theorem membersAcross_of_length {ends : List LinkedProperty} (other : ends.length ≠ 2) :
    membersAcross owner ends = [] := by
  unfold membersAcross
  split
  · exact absurd rfl other
  · rfl

namespace Linked.IsCoherent

variable (coherent : m.IsCoherent)
include coherent

/-- A class takes part in an association that has an end at it. -/
theorem contains_participatingClasses (isClass : owner ∈ m.classes) (among : a ∈ m.associations)
    {e : LinkedProperty} (there : e ∈ a.ends) (here : isEndAt e owner.key = true) :
    (Linked.participatingClasses a).contains owner.key = true := by
  obtain ⟨t, found, same⟩ := isEndAt_iff.1 here
  obtain rfl := coherent.isRooted.told a among _ there _ found owner (Linked.mem_everyType isClass) same
  have kind : owner.target.kind = .classKind := Linked.kind_of_mem_classes isClass
  rw [List.contains_iff_mem, Linked.participatingClasses, mem_distinctKeys, List.mem_filterMap]
  refine ⟨e, there, ?_⟩
  rw [found]
  exact if_pos (beq_iff_eq.2 kind)

/-- The two ends of an association have distinct keys. -/
theorem key_ne (among : a ∈ m.associations) (ends : a.ends = [first, second]) :
    first.place.key ≠ second.place.key := by
  have apart := coherent.endKeys a among
  rw [ends] at apart
  simpa using apart

/-- The members of a class are those that the plain scan finds, in its order. -/
theorem associationMembers_eq_scan (isClass : owner ∈ m.classes) :
    m.associationMembers owner = m.scannedMembers owner := by
  rw [Linked.associationMembers, associationsAt_eq_filter, flatMap_filter, Linked.scannedMembers]
  refine List.flatMap_congr fun a among => ?_
  by_cases two : a.ends.length = 2
  · obtain ⟨first, second, ends⟩ := List.length_eq_two.1 two
    have opposite : m.opposite? first = some second := coherent.isRooted.opposite?_eq among (.inl ends)
    have opposite' : m.opposite? second = some first := coherent.isRooted.opposite?_eq among (.inr ends)
    have paired : ∀ far ∈ farEnds a.ends owner.key,
        (if far.endType.isSome then
            (m.opposite? far).map fun opposite => (⟨owner, far, opposite⟩ : AssociationMember)
          else none) =
        if far.endType.isSome then
          some ⟨owner, far, if far.place.key = first.place.key then second else first⟩
        else none := by
      intro far there
      obtain ⟨near, both | both, _⟩ := mem_farEnds.1 there
      · obtain ⟨rfl, rfl⟩ : first = far ∧ second = near := by simpa [ends] using both
        rw [opposite, if_pos rfl]
        rfl
      · obtain ⟨rfl, rfl⟩ : first = near ∧ second = far := by simpa [ends] using both
        rw [opposite', if_neg (coherent.key_ne among ends).symm]
        rfl
    rw [List.filterMap_congr paired, ends]
    split
    · rfl
    · next missing =>
      -- A class that takes no part in the association has no far ends.
      have none : farEnds [first, second] owner.key = [] := by
        refine List.eq_nil_iff_forall_not_mem.2 fun far there => missing ?_
        obtain ⟨near, both, here⟩ := mem_farEnds.1 there
        refine coherent.contains_participatingClasses isClass among (e := near) ?_ here
        rw [ends]
        rcases both with both | both <;> simp [both]
      rw [membersAcross, none]
      rfl
  · rw [farEnds_of_length two, membersAcross_of_length two]
    split <;> rfl

/-! ## One association -/

/-- The types of a rooted model are distinct. -/
theorem nodup_types : m.model.types.Nodup := by
  have apart := coherent.keys
  rw [Linked.everyType, List.map_append] at apart
  exact apart.of_append_left.of_map _

/-- What the members of an association come from. -/
theorem holder_of_mem_membersAcross (among : a ∈ m.associations) {r : AssociationMember}
    (there : r ∈ membersAcross owner a.ends) : r.far.place.holder = some a.key := by
  unfold membersAcross at there
  split at there
  · next first second ends =>
    obtain ⟨far, within, built⟩ := List.mem_filterMap.1 there
    obtain ⟨-, given⟩ := Option.ite_none_right_eq_some.1 built
    obtain rfl := Option.some.inj given
    obtain ⟨near, both, -⟩ := mem_farEnds.1 within
    refine coherent.holders a among far ?_
    rw [ends]
    rcases both with both | both <;> simp [both]
  · exact absurd there List.not_mem_nil

/-- All members that an association contributes, class after class. -/
theorem membersOf_eq (among : a ∈ m.associations) :
    m.membersOf a = m.classes.flatMap fun c => membersAcross c a.ends := by
  rw [Linked.membersOf, List.filter_flatMap]
  refine List.flatMap_congr fun c isClass => ?_
  have known {a' : LinkedType} (there : a' ∈ m.associations) : a' ∈ m.everyType :=
    List.mem_append_left _ (List.mem_filter.1 there).1
  have own : (membersAcross c a.ends).filter (fun r => r.far.place.holder == some a.key) =
      membersAcross c a.ends := by
    refine List.filter_eq_self.2 fun r there => ?_
    rw [coherent.holder_of_mem_membersAcross among there]
    exact beq_self_eq_true _
  rw [coherent.associationMembers_eq_scan isClass, Linked.scannedMembers, List.filter_flatMap]
  refine (flatMap_eq_of_unique (coherent.nodup_types.filter _) among fun a' among' other => ?_).trans own
  refine List.filter_eq_nil_iff.2 fun r there held => other ?_
  rw [coherent.holder_of_mem_membersAcross among' there] at held
  exact coherent.isRooted.type_eq (known among') (known among) (Option.some.inj (eq_of_beq held))

/-- The members that an association with two ends adds to a class, by the types at the ends. -/
theorem membersAcross_eq (isClass : owner ∈ m.classes) (among : a ∈ m.associations)
    (ends : a.ends = [first, second]) : membersAcross owner a.ends =
      (if second.endType = some owner.target ∧ first.endType.isSome then [⟨owner, first, second⟩] else []) ++
        if first.endType = some owner.target ∧ second.endType.isSome then [⟨owner, second, first⟩] else [] := by
  have at_iff {e : LinkedProperty} (there : e ∈ a.ends) :
      isEndAt e owner.key = true ↔ e.endType = some owner.target := by
    rw [isEndAt_iff]
    constructor
    · rintro ⟨t, found, same⟩
      rw [found, coherent.isRooted.told a among _ there _ found owner (Linked.mem_everyType isClass) same]
    · intro found
      exact ⟨_, found, rfl⟩
  have atFirst := at_iff (e := first) (by simp [ends])
  have atSecond := at_iff (e := second) (by simp [ends])
  have differ : ¬ second.place.key = first.place.key := (coherent.key_ne among ends).symm
  rw [ends, membersAcross, farEnds]
  simp only [← atFirst, ← atSecond]
  cases isEndAt first owner.key <;> cases isEndAt second owner.key <;>
    by_cases typed : first.endType.isSome = true <;> by_cases typed' : second.endType.isSome = true <;>
    simp [typed, typed', differ]

/-! ## Conservation -/

/-- The classes of a rooted model are distinct. -/
theorem nodup_classes : m.classes.Nodup := coherent.nodup_types.filter _

/-- Classes that are the same target are equal. -/
theorem class_eq {c c' : LinkedType} (isClass : c ∈ m.classes) (isClass' : c' ∈ m.classes)
    (same : c.target = c'.target) : c = c' :=
  coherent.isRooted.type_eq (Linked.mem_everyType isClass) (Linked.mem_everyType isClass') (congrArg Target.key same)

section

variable (among : a ∈ m.associations)
include among

/-- The only class at an end has all members of the association. -/
theorem membersOf_eq_of_unique (isClass : owner ∈ m.classes)
    (others : ∀ c ∈ m.classes, ∀ e ∈ a.ends, e.endType = some c.target → c = owner) :
    m.membersOf a = membersAcross owner a.ends := by
  rw [coherent.membersOf_eq among]
  refine flatMap_eq_of_unique coherent.nodup_classes isClass fun c isClass' ne => ?_
  by_cases two : a.ends.length = 2
  · obtain ⟨first, second, ends⟩ := List.length_eq_two.1 two
    have awayFirst : ¬ first.endType = some c.target := fun found =>
      ne (others c isClass' first (by simp [ends]) found)
    have awaySecond : ¬ second.endType = some c.target := fun found =>
      ne (others c isClass' second (by simp [ends]) found)
    rw [coherent.membersAcross_eq isClass' among ends, if_neg fun found => awaySecond found.1,
      if_neg fun found => awayFirst found.1]
    rfl
  · exact membersAcross_of_length two

/-- An association with an end whose type is unknown gives no members. -/
theorem membersOf_of_unresolved {e : LinkedProperty} (there : e ∈ a.ends) (missing : e.endType = none) :
    m.membersOf a = [] := by
  rw [coherent.membersOf_eq among, List.flatMap_eq_nil_iff]
  intro c isClass
  by_cases two : a.ends.length = 2
  · obtain ⟨first, second, ends⟩ := List.length_eq_two.1 two
    rw [ends, List.mem_pair] at there
    rcases there with rfl | rfl <;> simp [coherent.membersAcross_eq isClass among ends, missing]
  · exact membersAcross_of_length two

/-- An association without a class at its ends gives no members. -/
theorem membersOf_of_classless (classless : ∀ e ∈ a.ends, ∀ t, e.endType = some t → t.kind ≠ .classKind) :
    m.membersOf a = [] := by
  rw [coherent.membersOf_eq among, List.flatMap_eq_nil_iff]
  intro c isClass
  have away {e : LinkedProperty} (there : e ∈ a.ends) : ¬ e.endType = some c.target := fun found =>
    classless e there _ found (Linked.kind_of_mem_classes isClass)
  by_cases two : a.ends.length = 2
  · obtain ⟨first, second, ends⟩ := List.length_eq_two.1 two
    have awayFirst := away (e := first) (by simp [ends])
    have awaySecond := away (e := second) (by simp [ends])
    simp [coherent.membersAcross_eq isClass among ends, awayFirst, awaySecond]
  · exact membersAcross_of_length two

/-- An association with other than two ends gives no members. -/
theorem membersOf_of_arity (other : a.ends.length ≠ 2) : m.membersOf a = [] := by
  rw [coherent.membersOf_eq among, List.flatMap_eq_nil_iff]
  exact fun c _ => membersAcross_of_length other

end

section

variable {c c' : LinkedType} (isClass : c ∈ m.classes) (among : a ∈ m.associations)
include isClass among

/-- An association between two classes gives each of them a member. -/
theorem membersOf_of_between (isClass' : c' ∈ m.classes) (differ : c ≠ c') (ends : a.ends = [first, second])
    (found : first.endType = some c.target) (found' : second.endType = some c'.target) :
    (m.membersOf a).Perm [⟨c, second, first⟩, ⟨c', first, second⟩] := by
  have away {z : LinkedType} (known : z ∈ m.classes) {x : LinkedType} (known' : x ∈ m.classes) (ne : z ≠ x) :
      ¬ x.target = z.target := fun same => ne (coherent.class_eq known known' same.symm)
  have one : membersAcross c a.ends = [⟨c, second, first⟩] := by
    simp [coherent.membersAcross_eq isClass among ends, found, found', away isClass isClass' differ]
  have other : membersAcross c' a.ends = [⟨c', first, second⟩] := by
    simp [coherent.membersAcross_eq isClass' among ends, found, found', away isClass' isClass differ.symm]
  have both := flatMap_perm_of_two (f := fun z => membersAcross z a.ends) coherent.nodup_classes isClass isClass'
    differ fun z known ne ne' => by
      simp [coherent.membersAcross_eq known among ends, found, found', away known isClass ne,
        away known isClass' ne']
  rw [coherent.membersOf_eq among]
  rwa [one, other] at both

/-- An association of a class with itself gives it two members. -/
theorem membersOf_of_reflexive (ends : a.ends = [first, second]) (found : first.endType = some c.target)
    (found' : second.endType = some c.target) :
    m.membersOf a = [⟨c, first, second⟩, ⟨c, second, first⟩] := by
  rw [coherent.membersOf_eq_of_unique among isClass fun z known e there leads => ?_]
  · simp [coherent.membersAcross_eq isClass among ends, found, found']
  · refine coherent.class_eq known isClass ?_
    rw [ends, List.mem_pair] at there
    rcases there with rfl | rfl
    · exact Option.some.inj (leads.symm.trans found)
    · exact Option.some.inj (leads.symm.trans found')

/-- An association with one class at its ends gives this class a member. -/
theorem membersOf_of_oneSided {near far : LinkedProperty} {t : Target}
    (ends : a.ends = [near, far] ∨ a.ends = [far, near]) (found : near.endType = some c.target)
    (found' : far.endType = some t) (other : t.kind ≠ .classKind) : m.membersOf a = [⟨c, far, near⟩] := by
  have away {z : LinkedType} (known : z ∈ m.classes) : ¬ t = z.target := fun same =>
    other (same ▸ Linked.kind_of_mem_classes known)
  rw [coherent.membersOf_eq_of_unique among isClass fun z known e there leads => ?_]
  · rcases ends with ends | ends <;>
      simp [coherent.membersAcross_eq isClass among ends, found, found', away isClass]
  · have there' : e = near ∨ e = far := by
      rcases ends with ends | ends <;> rw [ends, List.mem_pair] at there
      · exact there
      · exact there.symm
    rcases there' with rfl | rfl
    · exact coherent.class_eq known isClass (Option.some.inj (leads.symm.trans found))
    · exact absurd (Option.some.inj (found'.symm.trans leads)) (away known)

end

/-- Where the types at the ends of an association are types of the model, no member of it is lost or found twice. -/
theorem conserves (among : a ∈ m.associations)
    (within : ∀ e ∈ a.ends, ∀ t, e.endType = some t → ∃ type ∈ m.model.types, type.target = t) :
    m.Conserves a := by
  have classAt {e : LinkedProperty} {t : Target} (there : e ∈ a.ends) (found : e.endType = some t)
      (kind : t.kind = .classKind) : ∃ c ∈ m.classes, c.target = t := by
    obtain ⟨c, known, rfl⟩ := within e there t found
    exact ⟨c, List.mem_filter.2 ⟨known, beq_iff_eq.2 kind⟩, rfl⟩
  refine ⟨?_, ?_, ?_, ?_, coherent.membersOf_of_classless among, coherent.membersOf_of_arity among⟩
  · intro first second t t' ends found found' kind kind' differ
    obtain ⟨c, isClass, rfl⟩ := classAt (e := first) (by simp [ends]) found kind
    obtain ⟨c', isClass', rfl⟩ := classAt (e := second) (by simp [ends]) found' kind'
    refine ⟨c, isClass, c', isClass', rfl, rfl, ?_⟩
    exact coherent.membersOf_of_between isClass among isClass' (fun same => differ (same ▸ rfl)) ends found found'
  · intro first second t ends found found' kind
    obtain ⟨c, isClass, rfl⟩ := classAt (e := first) (by simp [ends]) found kind
    exact ⟨c, isClass, rfl, coherent.membersOf_of_reflexive isClass among ends found found'⟩
  · intro near far t t' ends found found' kind other
    obtain ⟨c, isClass, rfl⟩ := classAt (mem_ends ends) found kind
    exact ⟨c, isClass, rfl, coherent.membersOf_of_oneSided isClass among ends found found' other⟩
  · rintro ⟨e, there, missing⟩
    exact coherent.membersOf_of_unresolved among there missing

end Linked.IsCoherent

end ClassDiagram
